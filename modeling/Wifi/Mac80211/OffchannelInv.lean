import Wifi.Mac80211.Offchannel

/-!
# The list of off-channel requests

* `Told`, `Reported` — what is told about a request on the list, and about one that is gone.
* `StartedFirst` — the started requests are in front, on one interface and channel.
* `Law` — both hold, and requests were coalesced only into covering ones.
* `Law.walk` — a loop over the list keeps it; `startNextRoc_law`, `rocWork_law`, … — the operations do.
-/

namespace Mac80211.Offchannel

open Ledger Wireless.Chan

/-- A request on the list: not yet announced, or announced once, or its frame transmitted once. -/
inductive Told (roc : RocWork) : List Notice → Prop where
  | waiting : roc.mgmtTxCookie = 0 → roc.frame = none → roc.notified = false →
      Told roc [.accepted none]
  | ready : roc.mgmtTxCookie = 0 → roc.frame = none → roc.notified = true → roc.started = true →
      Told roc [.accepted none, .ready roc.cookie roc.reqDuration]
  | holding (skb : Nat) : roc.mgmtTxCookie ≠ 0 → roc.frame = some skb → roc.notified = false →
      Told roc [.accepted (some skb)]
  | transmitted (skb : Nat) : roc.mgmtTxCookie ≠ 0 → roc.frame = none → roc.notified = true →
      roc.started = true → Told roc [.accepted (some skb), .transmitted skb]

/-- A request that is gone: it expired once, at the end, after it was announced at most once; its frame was
    either transmitted or reported as failed. -/
inductive Reported : List Notice → Prop where
  | expired (cookie : BitVec 64) : Reported [.accepted none, .expired cookie]
  | ready (cookie : BitVec 64) (duration : BitVec 32) :
      Reported [.accepted none, .ready cookie duration, .expired cookie]
  | failed (skb : Nat) (cookie : BitVec 64) :
      Reported [.accepted (some skb), .txStatus cookie skb, .txExpired cookie]
  | transmitted (skb : Nat) (cookie : BitVec 64) :
      Reported [.accepted (some skb), .transmitted skb, .txExpired cookie]

def laws : Laws RocWork Notice where
  key := RocWork.id
  told := Told
  final := Reported

/-- The started requests are in front of the others, and share interface and channel. -/
def StartedFirst (l : List RocWork) : Prop :=
  l.Pairwise fun a b => b.started = true → a.started = true ∧ samePlace a b = true

instance (l : List RocWork) : Decidable (StartedFirst l) :=
  inferInstanceAs (Decidable (l.Pairwise fun a b => b.started = true → a.started = true ∧ samePlace a b = true))

variable {hw : Hw} {env : Env} {s : Local}

/-- The remaining time of the request that another one was coalesced into covers that one: all of its
    duration, if it has not begun. -/
def Covered (hw : Hw) (j : Join) : Prop :=
  if j.cur.hwBegun then
    0 ≤ (remaining hw j.now j.cur).toInt ∧ j.duration ≤ hw.jiffiesToMsecs (remaining hw j.now j.cur)
  else j.duration ≤ j.cur.duration

instance (j : Join) : Decidable (Covered hw j) :=
  inferInstanceAs (Decidable (if j.cur.hwBegun then
    0 ≤ (remaining hw j.now j.cur).toInt ∧ j.duration ≤ hw.jiffiesToMsecs (remaining hw j.now j.cur)
  else j.duration ≤ j.cur.duration))

/-- **The law of the requests.** -/
structure Law (hw : Hw) (s : Local) : Prop where
  startedFirst : StartedFirst s.rocList
  kept : Kept laws s.nextId s.rocList s.log
  covered : ∀ j ∈ s.joins, Covered hw j

/-! ## One request -/

@[simp]
theorem samePlace_self (roc : RocWork) : samePlace roc roc = true := by simp [samePlace]

theorem samePlace_iff {a b : RocWork} : samePlace a b = true ↔ b.sdata = a.sdata ∧ b.chan = a.chan := by
  simp [samePlace]

def place (roc : RocWork) : Bool × Nat × Channel := (roc.started, roc.sdata, roc.chan)

theorem startedFirst_of_place {l l' : List RocWork} (h : StartedFirst l)
    (hsub : (l'.map place).Sublist (l.map place)) : StartedFirst l' := by
  have hmap : ∀ l : List RocWork, StartedFirst l ↔
      (l.map place).Pairwise fun a b => b.1 = true → a.1 = true ∧ b.2 = a.2 := fun l => by
    unfold StartedFirst
    rw [List.pairwise_map]
    simp only [place, samePlace_iff, Prod.mk.injEq]
  exact (hmap l').2 (((hmap l).1 h).sublist hsub)

theorem Told.congr {a b : RocWork} {told : List Notice} (h : Told a told) (hm : b.mgmtTxCookie = a.mgmtTxCookie)
    (hf : b.frame = a.frame) (hn : b.notified = a.notified) (hs : a.started = true → b.started = true)
    (hc : b.cookie = a.cookie) (hd : b.reqDuration = a.reqDuration) : Told b told := by
  cases h with
  | waiting h1 h2 h3 => exact .waiting (hm.trans h1) (hf.trans h2) (hn.trans h3)
  | ready h1 h2 h3 h4 =>
    rw [← hc, ← hd]
    exact .ready (hm.trans h1) (hf.trans h2) (hn.trans h3) (hs h4)
  | holding skb h1 h2 h3 => exact .holding skb (hm ▸ h1) (hf.trans h2) (hn.trans h3)
  | transmitted skb h1 h2 h3 h4 => exact .transmitted skb (hm ▸ h1) (hf.trans h2) (hn.trans h3) (hs h4)

theorem Told.started {roc : RocWork} {told : List Notice} (h : Told roc told) (hn : roc.notified = true) :
    roc.started = true := by
  cases h with
  | waiting _ _ h => rw [h] at hn; cases hn
  | ready _ _ _ h => exact h
  | holding _ _ _ h => rw [h] at hn; cases hn
  | transmitted _ _ _ _ h => exact h

/-- **The announcement** of a request. -/
theorem Told.handle {roc : RocWork} {told : List Notice} (t : BitVec 64) (h : Told roc told) :
    Told (handleRocStarted roc t).1 (told ++ (handleRocStarted roc t).2) := by
  unfold handleRocStarted
  cases hn : roc.notified with
  | true =>
    rw [if_pos rfl, List.append_nil]
    exact h
  | false =>
    rw [if_neg (by decide)]
    dsimp only
    cases h with
    | waiting h1 h2 h3 =>
      rw [if_neg (not_not_intro h1)]
      exact .ready h1 h2 rfl rfl
    | ready _ _ h3 => rw [hn] at h3; cases h3
    | holding skb h1 h2 h3 =>
      rw [if_pos h1, h2]
      exact .transmitted skb h1 rfl rfl rfl
    | transmitted _ _ _ h3 => rw [hn] at h3; cases h3

theorem handleRocStarted_place (roc : RocWork) (t : BitVec 64) :
    (handleRocStarted roc t).1.id = roc.id ∧ (handleRocStarted roc t).1.sdata = roc.sdata ∧
      (handleRocStarted roc t).1.chan = roc.chan ∧
      (roc.notified = false ∨ roc.started = true → (handleRocStarted roc t).1.started = true) := by
  unfold handleRocStarted
  cases hn : roc.notified with
  | true => exact ⟨rfl, rfl, rfl, fun h => h.elim nofun id⟩
  | false =>
    rw [if_neg (by decide)]
    dsimp only
    split
    · cases roc.frame with
      | some skb => exact ⟨rfl, rfl, rfl, fun _ => rfl⟩
      | none => exact ⟨rfl, rfl, rfl, fun _ => rfl⟩
    · exact ⟨rfl, rfl, rfl, fun _ => rfl⟩

/-- **The end** of a request. -/
theorem Told.destroy {roc : RocWork} {told : List Notice} (h : Told roc told) :
    Reported (told ++ notifyDestroy roc) := by
  unfold notifyDestroy
  cases h with
  | waiting h1 h2 h3 =>
    rw [h2, if_pos h1]
    exact .expired roc.cookie
  | ready h1 h2 h3 =>
    rw [h2, if_pos h1]
    exact .ready roc.cookie roc.reqDuration
  | holding skb h1 h2 h3 =>
    rw [h2, if_neg h1]
    exact .failed skb roc.mgmtTxCookie
  | transmitted skb h1 h2 h3 =>
    rw [h2, if_neg h1]
    exact .transmitted skb roc.mgmtTxCookie

theorem moves_drop {roc : RocWork} {told : List Notice} (h : Told roc told) :
    laws.Moves roc (none, notifyDestroy roc) told := h.destroy

theorem moves_keep {a b : RocWork} {told : List Notice} (h : Told b told) (hid : b.id = a.id) :
    laws.Moves a (some b, []) told := by
  refine ⟨hid, ?_⟩
  rw [List.append_nil]
  exact h

theorem moves_handle {a b : RocWork} {told : List Notice} (t : BitVec 64) (h : Told b told) (hid : b.id = a.id) :
    laws.Moves a (some (handleRocStarted b t).1, (handleRocStarted b t).2) told :=
  ⟨(handleRocStarted_place b t).1.trans hid, h.handle t⟩

/-! ## Loops over the list -/

/-- **A loop over the list** that leaves every request where it is, or takes it off. -/
theorem Law.walk {p : RocWork → Bool} {f : RocWork → Option RocWork × List Notice} (h : Law hw s)
    (hmoves : ∀ e ∈ s.rocList, p e = true → ∀ told, Told e told → laws.Moves e (f e) told)
    (hplace : ∀ e ∈ s.rocList, p e = true → ∀ e', (f e).1 = some e' → place e' = place e) :
    Law hw (s.walk p f) :=
  ⟨startedFirst_of_place h.startedFirst (walkWhile_sublist hplace),
    Kept.walkWhile (L := laws) (l := []) h.kept hmoves, h.covered⟩

theorem endFinishedRocs_law (now : BitVec 64) (h : Law hw s) : Law hw (endFinishedRocs hw now s) := by
  refine h.walk (fun e _ _ told htold => ?_) fun e _ _ e' he => ?_
  · cases finished hw now e with
    | true => exact moves_drop htold
    | false => exact moves_keep htold rfl
  · cases hfin : finished hw now e with
    | true => rw [hfin] at he; cases he
    | false => rw [hfin] at he; cases he; rfl

theorem hwRocStart_law (h : Law hw s) : Law hw (hwRocStart s) := by
  have hw' := h.walk (p := RocWork.started)
    (f := fun roc =>
      let r := handleRocStarted { roc with hwBegun := true } s.hwRocStartTime
      (some r.1, r.2))
    (fun e _ _ told htold =>
      moves_handle _ (htold.congr (b := { e with hwBegun := true }) rfl rfl rfl id rfl rfl) rfl)
    fun e _ hs e' he => by
      cases he
      obtain ⟨-, hsd, hch, hst⟩ := handleRocStarted_place { e with hwBegun := true } s.hwRocStartTime
      unfold place
      rw [hsd, hch, hst (.inr hs), hs]
  exact ⟨hw'.startedFirst, hw'.kept, hw'.covered⟩

/-- A loop that starts the requests at the head, up to the first one elsewhere. -/
theorem startedFirst_startRun {roc : RocWork} {f : RocWork → Option RocWork × List Notice} : ∀ {l : List RocWork},
    (∀ e ∈ l, e.started = false) →
    (∀ e ∈ l, ∃ e', (f e).1 = some e' ∧ e'.started = true ∧ e'.sdata = e.sdata ∧ e'.chan = e.chan) →
    StartedFirst (walkWhile RocWork.id (samePlace roc) f l).1 ∧
      ∀ e ∈ (walkWhile RocWork.id (samePlace roc) f l).1, e.started = true → samePlace roc e = true
  | [], _, _ => ⟨List.Pairwise.nil, fun e he => (nomatch he)⟩
  | e :: l, hs, hf => by
    unfold walkWhile
    cases hp : samePlace roc e with
    | false =>
      rw [if_neg (by decide)]
      refine ⟨?_, fun x hx hxs => ?_⟩
      · exact List.pairwise_of_forall_mem_list fun a _ b hb hbs => by
          rw [hs b hb] at hbs
          cases hbs
      · rw [hs x hx] at hxs
        cases hxs
    | true =>
      rw [if_pos rfl]
      obtain ⟨e', he', hst, hsd, hch⟩ := hf e List.mem_cons_self
      have hrest : StartedFirst (walkWhile RocWork.id (samePlace roc) f l).1 ∧
          ∀ x ∈ (walkWhile RocWork.id (samePlace roc) f l).1, x.started = true → samePlace roc x = true :=
        startedFirst_startRun (fun x hx => hs x (List.mem_cons_of_mem _ hx))
          fun x hx => hf x (List.mem_cons_of_mem _ hx)
      have hp' : samePlace roc e' = true := by
        obtain ⟨h1, h2⟩ := samePlace_iff.1 hp
        exact samePlace_iff.2 ⟨hsd.trans h1, hch.trans h2⟩
      dsimp only
      rw [he']
      refine ⟨List.pairwise_cons.2 ⟨fun y hy hys => ⟨hst, ?_⟩, hrest.1⟩, fun x hx hxs => ?_⟩
      · obtain ⟨h1, h2⟩ := samePlace_iff.1 hp'
        obtain ⟨h3, h4⟩ := samePlace_iff.1 (hrest.2 y hy hys)
        exact samePlace_iff.2 ⟨h3.trans h1.symm, h4.trans h2.symm⟩
      · rcases List.mem_cons.1 hx with rfl | hx
        · exact hp'
        · exact hrest.2 x hx hxs

theorem Law.startRun {roc : RocWork} {f : RocWork → Option RocWork × List Notice} (h : Law hw s)
    (hs : ∀ e ∈ s.rocList, e.started = false)
    (hf : ∀ e ∈ s.rocList, ∃ e', (f e).1 = some e' ∧ e'.started = true ∧ e'.sdata = e.sdata ∧ e'.chan = e.chan)
    (hmoves : ∀ e ∈ s.rocList, samePlace roc e = true → ∀ told, Told e told → laws.Moves e (f e) told) :
    Law hw (s.walk (samePlace roc) f) :=
  ⟨(startedFirst_startRun hs hf).1, Kept.walkWhile (L := laws) (l := []) h.kept hmoves, h.covered⟩

theorem startNextRocNow_law (h : Law hw s) : Law hw (startNextRocNow hw env s) := by
  unfold startNextRocNow
  cases hl : s.rocList with
  | nil => exact h
  | cons roc rest =>
    dsimp only
    by_cases hroc : roc.started = true
    · rw [if_pos hroc]
      exact h
    · rw [if_neg hroc]
      have hsf := h.startedFirst
      unfold StartedFirst at hsf
      rw [hl] at hsf
      have hnone : ∀ e ∈ s.rocList, e.started = false := fun e he => by
        rw [hl] at he
        rcases List.mem_cons.1 he with rfl | he
        · exact Bool.eq_false_iff.2 hroc
        · exact Bool.eq_false_iff.2 fun hs => hroc ((List.pairwise_cons.1 hsf).1 e he hs).1
      have hnot : ∀ e ∈ s.rocList, e.notified = false := fun e he =>
        Bool.eq_false_iff.2 fun hn => by
          have hst := (h.kept.live e he).started hn
          rw [hnone e he] at hst
          cases hst
      have hidle : ∀ (e : RocWork) {told}, Told e told → ∀ a,
          Told { e with started := true, abort := a } told := fun e _ htold a =>
        htold.congr rfl rfl rfl (fun _ => rfl) rfl rfl
      by_cases hhw : hw.remainOnChannel = true
      · rw [if_pos hhw]
        generalize env.drvRemainOnChannel _ _ _ _ = ret
        split_ifs
        · exact h.startRun hnone (fun e _ => ⟨_, rfl, rfl, rfl, rfl⟩)
            fun e he _ told htold => moves_keep (hidle e htold true) rfl
        · exact h.startRun hnone (fun e _ => ⟨_, rfl, rfl, rfl, rfl⟩)
            fun e he _ told htold => moves_keep (hidle e htold e.abort) rfl
      · rw [if_neg hhw]
        generalize (decide (roc.chan = env.confChan) && !env.confNarrow) = onChannel
        have hstart : ∀ t : Local, Law hw t → t.rocList = s.rocList →
            Law hw (t.walk (samePlace roc) fun tmp =>
              (some (handleRocStarted { tmp with onChannel := onChannel } env.now).1,
                (handleRocStarted { tmp with onChannel := onChannel } env.now).2)) := by
          intro t ht hrl
          refine ht.startRun (hrl ▸ hnone) (fun e he => ?_) fun e _ _ told htold =>
            moves_handle _ (htold.congr (b := { e with onChannel := onChannel }) rfl rfl rfl id rfl rfl) rfl
          obtain ⟨-, h2, h3, h4⟩ := handleRocStarted_place { e with onChannel := onChannel } env.now
          exact ⟨_, rfl, h4 (.inl (hnot e (hrl ▸ he))), h2, h3⟩
        cases onChannel with
        | true => exact hstart s h rfl
        | false =>
          rw [if_neg (by decide)]
          exact hstart _ ⟨hl ▸ h.startedFirst, hl ▸ h.kept, h.covered⟩ hl.symm

theorem startNextRoc_law (h : Law hw s) : Law hw (startNextRoc hw env s) := by
  unfold startNextRoc
  cases s.rocList with
  | nil => exact h
  | cons roc rest =>
    dsimp only
    split_ifs
    · exact h
    · exact h
    · exact startNextRocNow_law h
    · exact h

theorem rocWork_law (h : Law hw s) : Law hw (rocWork hw env s) := by
  have hend := endFinishedRocs_law env.now h
  unfold rocWork
  by_cases hhw : hw.remainOnChannel = true
  · rw [if_pos hhw]
    exact h
  · rw [if_neg hhw]
    cases hl : s.rocList with
    | nil => exact h
    | cons roc rest =>
      dsimp only
      split_ifs
      · exact startNextRocNow_law h
      · exact hend
      · exact startNextRoc_law hend
      · exact startNextRoc_law ⟨hend.startedFirst, hend.kept, hend.covered⟩

theorem hwRocDone_law (h : Law hw s) : Law hw (hwRocDone hw env s) :=
  startNextRoc_law (endFinishedRocs_law env.now h)

theorem cancelRoc_law (cookie : BitVec 64) (mgmtTx : Bool) (h : Law hw s) :
    Law hw (cancelRoc hw env s cookie mgmtTx).2 := by
  unfold cancelRoc
  by_cases hc : cookie = 0
  · rw [if_pos hc]
    exact h
  · rw [if_neg hc]
    have hflush : Law hw (if s.hwRocStartQueued then hwRocStart s else s) := by
      split
      · exact hwRocStart_law h
      · exact h
    generalize (if s.hwRocStartQueued then hwRocStart s else s) = t at hflush ⊢
    dsimp only
    generalize (t.rocList.find? fun roc =>
      if mgmtTx = true then decide (roc.mgmtTxCookie = cookie) else decide (roc.cookie = cookie)) = r
    cases r with
    | none => exact hflush
    | some found =>
      dsimp only
      by_cases hst : found.started = true
      · rw [hst, if_neg (by decide)]
        by_cases hhw : hw.remainOnChannel = true
        · rw [if_pos hhw]
          by_cases hret : env.drvCancelRemainOnChannel found.sdata ≠ 0
          · rw [if_pos hret]
            exact hflush
          · rw [if_neg hret]
            exact startNextRoc_law (hflush.walk (fun e _ _ told htold => moves_drop htold)
              fun e _ _ e' he => (nomatch he))
        · rw [if_neg hhw]
          refine hflush.walk (fun e _ _ told htold => ?_) fun e _ _ e' he => ?_
          · split_ifs
            · exact moves_keep (htold.congr (b := { e with abort := true }) rfl rfl rfl id rfl rfl) rfl
            · exact moves_keep htold rfl
          · split_ifs at he
            · cases he
              rfl
            · cases he
              rfl
      · rw [Bool.eq_false_iff.2 hst, if_pos (by decide)]
        refine hflush.walk (fun e _ _ told htold => ?_) fun e _ _ e' he => ?_
        · split_ifs
          · exact moves_drop htold
          · exact moves_keep htold rfl
        · split_ifs at he
          cases he
          rfl

theorem rocPurge_law (sdata : Option Nat) (h : Law hw s) : Law hw (rocPurge hw env s sdata) := by
  have hwalk : ∀ other : RocWork → Bool, Law hw (s.walk (fun _ => true) fun roc =>
      if other roc then (some roc, [])
      else if roc.started then
        if hw.remainOnChannel then (none, notifyDestroy roc)
        else (some { roc with abort := true }, [])
      else (none, notifyDestroy roc)) := by
    intro other
    refine h.walk (fun e _ _ told htold => ?_) fun e _ _ e' he => ?_
    · split_ifs
      · exact moves_keep htold rfl
      · exact moves_drop htold
      · exact moves_keep (htold.congr (b := { e with abort := true }) rfl rfl rfl id rfl rfl) rfl
      · exact moves_drop htold
    · split_ifs at he
      · cases he
        rfl
      · cases he
        rfl
  unfold rocPurge
  dsimp only
  split
  · exact rocWork_law (hwalk _)
  · exact hwalk _

end Mac80211.Offchannel
