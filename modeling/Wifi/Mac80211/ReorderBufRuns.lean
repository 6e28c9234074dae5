import Wifi.Mac80211.ReorderBufOps

/-!
# Runs of a receive reorder buffer

* `slotsDistinct_iff` — the window maps to distinct slots exactly when the buffer size divides the
  sequence space or the window does not cross its end.
* `slot_discipline` — over runs of harmless calls held frames lie in their slot inside the window,
  and the slots are in discipline exactly where the window maps to distinct slots.
* `count_and_staleness` — with a buffer size that divides the sequence space, the counter is the
  number of complete slots and nothing older than the head is held.
-/

namespace Mac80211

open Slots

variable (k : KernelApi)

/-! ## Slots of a window -/

/-- The sequence numbers of the window map to pairwise distinct slots. -/
def SlotsDistinct (t : TidAmpduRx) : Prop :=
  ∀ d e, d < t.bufSize → e < t.bufSize →
    (t.headSeqNum + d) % 4096 % t.bufSize = (t.headSeqNum + e) % 4096 % t.bufSize → d = e

/-- A window that crosses the end of the sequence space meets a slot twice, unless the size of
    the buffer divides the space. -/
theorem slots_collide {t : TidAmpduRx} (h : Inv t) (ha : ¬ Aligned t) : ¬ SlotsDistinct t := by
  unfold Aligned at ha
  rw [not_or, Nat.not_le] at ha
  obtain ⟨hdvd, hcross⟩ := ha
  have hr0 : 4096 % t.bufSize ≠ 0 := fun h0 => hdvd (Nat.dvd_of_mod_eq_zero h0)
  have hr := Nat.mod_lt 4096 h.size_pos
  have hdiv := Nat.div_add_mod 4096 t.bufSize
  have hlt := h.head_lt
  have hle := h.size_le
  -- `x` is a number after the wrap, `4096 - m` one before it, and both map to slot `x`
  obtain ⟨x, hx⟩ : ∃ x, x = min (4096 % t.bufSize - 1) (t.headSeqNum + t.bufSize - 4096 - 1) :=
    ⟨_, rfl⟩
  obtain ⟨m, hm⟩ : ∃ m, m = 4096 % t.bufSize - x := ⟨_, rfl⟩
  have hwrapped : (t.headSeqNum + (4096 - t.headSeqNum + x)) % 4096 % t.bufSize = x := by
    have e : t.headSeqNum + (4096 - t.headSeqNum + x) = 4096 + x := by omega
    rw [e, Nat.add_mod_left, Nat.mod_eq_of_lt (show x < 4096 by omega), Nat.mod_eq_of_lt (by omega)]
  have hbefore : (t.headSeqNum + (4096 - t.headSeqNum - m)) % 4096 % t.bufSize = x := by
    have e : t.headSeqNum + (4096 - t.headSeqNum - m) = t.bufSize * (4096 / t.bufSize) + x := by
      omega
    have hlt' : t.bufSize * (4096 / t.bufSize) + x < 4096 := by omega
    rw [e, Nat.mod_eq_of_lt hlt', Nat.mul_add_mod, Nat.mod_eq_of_lt (by omega)]
  intro hinj
  have := hinj _ _ (by omega) (by omega) (hwrapped.trans hbefore.symm)
  omega

/-- **The window maps to distinct slots exactly when it is aligned.** -/
theorem slotsDistinct_iff {t : TidAmpduRx} (h : Inv t) : SlotsDistinct t ↔ Aligned t := by
  constructor
  · intro hs
    by_contra ha
    exact slots_collide h ha hs
  · intro ha d e hd he heq
    rw [ha.slot hd, ha.slot he] at heq
    exact slotAfter_inj hd he heq

/-! ## Slot discipline -/

/-- An in-window frame is dropped as already stored only when its slot is ready. -/
theorem alreadyStored_ready {t t' : TidAmpduRx} (h : Inv t) {jiffies : BitVec 64} {skb : Skb}
    {out : List Skb} (hin : snDist skb.seq t.headSeqNum < t.bufSize)
    (hd : ieee80211StaManageReorderBuf k t jiffies skb = some (.alreadyStored, t', out)) :
    ieee80211RxReorderReady t (skb.seq % t.bufSize) = true := by
  have h₁ := pickAutoSeq_inv h skb
  have hready := pickAutoSeq_ready t skb.seq
  have hsize : (pickAutoSeq t skb.seq).bufSize = t.bufSize := (pickAutoSeq_added t skb).size
  have hin₁ : snDist skb.seq (pickAutoSeq t skb.seq).headSeqNum < t.bufSize := by
    unfold pickAutoSeq
    cases ha : t.autoSeq with
    | false => exact hin
    | true =>
      have hpos := h.size_pos
      show snDist skb.seq skb.seq < t.bufSize
      unfold snDist
      omega
  have harr : ∃ t₁ out₁, arrive k t jiffies skb = some (.alreadyStored, t₁, out₁) := by
    unfold ieee80211StaManageReorderBuf at hd
    cases ha : arrive k t jiffies skb with
    | none => rw [ha] at hd; cases hd
    | some r =>
      obtain ⟨fate, t₁, out₁⟩ := r
      rw [ha] at hd
      by_cases hb : fate = .buffered ∧ skb.amsduMore = false
      · simp only [if_pos hb] at hd
        cases hr : ieee80211StaReorderRelease k t₁ jiffies with
        | none => rw [hr] at hd; cases hd
        | some r =>
          rw [hr] at hd
          simp only [Option.some.injEq, Prod.mk.injEq] at hd
          rw [hb.1] at hd
          cases hd.1
      · simp only [if_neg hb, Option.some.injEq, Prod.mk.injEq] at hd
        exact ⟨t₁, out₁, by rw [hd.1]⟩
  obtain ⟨t₁, out₁, harr⟩ := harr
  rw [← hsize] at hin₁
  rw [← hready, ← hsize]
  simp only [arrive] at harr
  revert h₁ hin₁ harr
  clear hready hsize hd
  generalize pickAutoSeq t skb.seq = t₂
  intro h₂ hin₂ harr
  have hlt := h₂.head_lt
  have hle := h₂.size_le
  have hseq := skb.seq_lt
  have hroom : makeRoom k { t₂ with started := true } skb.seq =
      some ({ t₂ with started := true }, []) := by
    have hless : k.snLess skb.seq (t₂.headSeqNum + t₂.bufSize) = true := by
      rw [k.snLess_iff _ _ (by omega)]
      unfold snDist at hin₂ ⊢
      omega
    unfold makeRoom
    rw [if_neg (by show ¬ k.snLess skb.seq (t₂.headSeqNum + t₂.bufSize) = false; rw [hless]; decide)]
  by_cases hstart : t₂.started = false ∧ k.snLess skb.seq t₂.headSeqNum = true
  · rw [if_pos hstart] at harr
    cases harr
  · rw [if_neg hstart] at harr
    by_cases hless : k.snLess skb.seq t₂.headSeqNum = true
    · rw [if_pos hless] at harr
      cases harr
    · rw [if_neg hless, hroom] at harr
      by_cases hr : ieee80211RxReorderReady t₂ (skb.seq % t₂.bufSize) = true
      · exact hr
      · have hr' : ¬ ieee80211RxReorderReady { t₂ with started := true }
            (skb.seq % t₂.bufSize) = true := hr
        simp only [storeFrame, if_neg hr'] at harr
        repeat' split at harr
        all_goals cases harr

/-- The slot discipline of a session: distinct slots for the window, held frames in their slot
    inside the window, and no frame inside the window dropped as already stored that was not
    received. -/
structure SlotDiscipline (s : Session) : Prop where
  distinct : SlotsDistinct s.rx
  place : ∀ i, ∀ f ∈ s.rx.reorderBuf i,
    i = f.seq % s.rx.bufSize ∧ snDist f.seq s.rx.headSeqNum < s.rx.bufSize
  fresh : ∀ jiffies skb t' out, snDist skb.seq s.rx.headSeqNum < s.rx.bufSize →
    ieee80211StaManageReorderBuf k s.rx jiffies skb = some (.alreadyStored, t', out) →
    ∃ f ∈ s.received, f.seq = skb.seq

/-- What holds between two calls on a session that has no filtered frames. -/
structure Session.Inv (s : Session) : Prop where
  rx : Mac80211.Inv s.rx
  held : ∀ i, ∀ f ∈ s.rx.reorderBuf i, f ∈ s.received
  unfiltered : ∀ i, s.rx.filteredAt i = false

/-- One step of the receive path in which no branch goes wrong. -/
def Session.HarmlessStep : Session → Op → Session → Prop :=
  Runs.Guarded (fun s op => op.reorders = true ∧ op.Harmless k s.rx) (Session.Step k)

theorem Installed.bare {t : TidAmpduRx} (h : Installed t) :
    t.reorderBufFiltered = 0 ∧ ∀ i, t.reorderBuf i = [] := by
  obtain ⟨-, r, hr⟩ := h
  unfold ieee80211StartRxBaSession at hr
  repeat' split at hr
  all_goals cases hr
  exact ⟨rfl, fun _ => rfl⟩

theorem Session.Fresh.inv {s : Session} (h : s.Fresh) : s.Inv := by
  obtain ⟨hf, hempty⟩ := h.1.bare
  refine ⟨h.1.inv, fun i f hmem => ?_, fun i => ?_⟩
  · rw [hempty i] at hmem
    cases hmem
  · simp [TidAmpduRx.filteredAt, hf]

theorem Session.step_inv {s s' : Session} {op : Op} (h : s.Inv)
    (hs : Session.HarmlessStep k s op s') : s'.Inv := by
  obtain ⟨⟨hre, hok⟩, hstep, hrec⟩ := hs
  have he := Step.effect k h.rx hok hstep
  refine ⟨he.inv, fun i f hf => ?_, fun i => ?_⟩
  · rw [hrec, List.mem_append]
    rcases he.held i f hf with hold | hnew
    · exact .inr (h.held i f hold)
    · exact .inl hnew
  · have hf := he.filt hre i
    rw [h.unfiltered i] at hf
    exact Bool.eq_false_iff.2 fun hb => by cases hf hb

theorem Session.reachable_inv {s : Session}
    (hr : Runs.Reachable Session.Fresh (Session.HarmlessStep k) s) : s.Inv :=
  hr.invariant (fun _ h0 => h0.inv) fun _ _ _ hi hs => Session.step_inv k hi hs

/-- **In a run of harmless calls, held frames lie in their slot inside the window, every harmless
    call returns, and a state keeps the slot discipline exactly when its window is aligned.** -/
theorem slot_discipline {s : Session}
    (hr : Runs.Reachable Session.Fresh (Session.HarmlessStep k) s) :
    (SlotDiscipline k s ↔ Aligned s.rx) ∧
      (∀ i, ∀ f ∈ s.rx.reorderBuf i,
        i = f.seq % s.rx.bufSize ∧ snDist f.seq s.rx.headSeqNum < s.rx.bufSize) ∧
      ∀ op : Op, op.Harmless k s.rx → ∃ t', Step k s.rx op t' := by
  have hi := Session.reachable_inv k hr
  refine ⟨⟨fun hd => (slotsDistinct_iff hi.rx).1 hd.distinct, fun ha => ?_⟩, hi.rx.place,
    fun op hok => hok.step k hi.rx⟩
  refine ⟨(slotsDistinct_iff hi.rx).2 ha, hi.rx.place, ?_⟩
  intro jiffies skb t' out hin hdrop
  rcases ready_iff.1 (alreadyStored_ready k hi.rx hin hdrop) with hf | hc
  · rw [hi.unfiltered] at hf; cases hf
  · -- what is held in the slot of the frame has its number
    have hne : s.rx.reorderBuf (skb.seq % s.rx.bufSize) ≠ [] := by
      intro h0; rw [h0] at hc; cases hc
    obtain ⟨f, hf⟩ := List.exists_mem_of_ne_nil _ hne
    refine ⟨f, hi.held _ f hf, ?_⟩
    have hslot := hi.rx.slotAfter_place ha hf
    have hd := (hi.rx.place _ f hf).2
    have hown := ha.slot hin
    have hfseq := f.seq_lt
    have hseq := skb.seq_lt
    have hlt := hi.rx.head_lt
    have he : (s.rx.headSeqNum + snDist skb.seq s.rx.headSeqNum) % 4096 = skb.seq := by
      unfold snDist; omega
    rw [he, hslot] at hown
    have := slotAfter_inj hd hin hown
    unfold snDist at this
    omega

/-! ## Runs that can be computed -/

def Session.next (s : Session) (op : Op) : Option Session :=
  (op.apply k s.rx).map fun r => ⟨r.1, op.received ++ s.received⟩

theorem Session.next_step {s s' : Session} {op : Op} (h : s.next k op = some s') :
    s.Step k op s' := by
  unfold Session.next at h
  cases ha : op.apply k s.rx with
  | none => rw [ha] at h; cases h
  | some r =>
    rw [ha] at h
    cases h
    exact ⟨⟨r.2.1, r.2.2, ha⟩, rfl⟩

/-- An HT peer asks for a buffer of `b` frames from `start` on. -/
def htRequest (start : BitVec 12) (b : Nat) : StartRequest where
  tid := 0
  startSeqNum := start
  bufSize := b
  baPolicy := 1
  autoSeq := false
  htSupported := true
  htCapDelayBa := false
  hasHe := false
  hasEht := false
  blockBa := false
  maxRxAggregationSubframes := 64
  sameToken := false
  hwReorders := false
  driverOk := true

/-- The session set up for `htRequest`. -/
def htSession (start : BitVec 12) (b : Nat) : Session where
  rx :=
    { reorderBufFiltered := 0, reorderBuf := fun _ => [], reorderTime := fun _ => 0,
      reorderTimer := none, headSeqNum := start.toNat, storedMpduNum := 0, ssn := start.toNat,
      bufSize := min b 64, autoSeq := false, removed := false, started := false }
  received := []

theorem htSession_fresh {start : BitVec 12} {b : Nat} (h0 : 0 < b) (h : b ≤ 64) :
    (htSession start b).Fresh := by
  refine ⟨⟨by show 0 < min b 64; omega, htRequest start b, ?_⟩, rfl⟩
  have hb : b ≠ 0 := by omega
  have hmax : ¬ 64 < b := by omega
  simp [ieee80211StartRxBaSession, htRequest, htSession, StartRequest.clampedSize,
    StartRequest.maxBufSize, IEEE80211_FIRST_TSPEC_TSID, IEEE80211_MAX_AMPDU_BUF_HT, hb, hmax]

/-- An MPDU with sequence number `sn`, or a subframe that is followed by more. -/
def mpdu (sn : BitVec 12) (more : Bool) : Skb :=
  { sn := sn, amsduMore := more, deferredRelease := false, data := 0 }

theorem htSession_subframe {s : Session} (hs : s = htSession 4090 64) :
    (Op.frame 0 (mpdu 1 true)).Harmless .linux s.rx ∧
      ∃ t, (Op.frame 0 (mpdu 1 true)).apply .linux s.rx = some (t, some .buffered, []) ∧
        t.reorderBuf 1 = [mpdu 1 true] ∧ t.bufSize = 64 := by
  subst hs
  refine ⟨⟨⟨by unfold Reaches; decide, fun _ _ _ => rfl⟩, fun _ _ h => ?_⟩, _, rfl, rfl, rfl⟩
  cases (show (none : Option (TidAmpduRx × BitVec 64)) = _ from h)

/-- A subframe is held across the end of the sequence space, in a buffer of 64 frames. -/
theorem slot_discipline_across_wrap :
    ∃ s, Runs.Reachable Session.Fresh (Session.HarmlessStep .linux) s ∧
      s.rx.reorderBuf 1 = [mpdu 1 true] ∧ SlotDiscipline .linux s := by
  obtain ⟨s, hs⟩ : ∃ s, s = htSession 4090 64 := ⟨_, rfl⟩
  obtain ⟨hok, t, ht, hbuf⟩ := htSession_subframe hs
  have hr : Runs.Reachable Session.Fresh (Session.HarmlessStep .linux) ⟨t, [mpdu 1 true]⟩ := by
    refine .next (.start (hs ▸ htSession_fresh (by decide) (by decide)))
      ⟨⟨rfl, hok⟩, ⟨_, _, ht⟩, ?_⟩
    subst hs
    rfl
  have ha : Aligned t := .inl (by rw [hbuf.2]; decide)
  exact ⟨_, hr, hbuf.1, (slot_discipline .linux hr).1.2 ha⟩

/-- A buffer of 3 frames, window 4094, 4095, 0: frame 0 is held in the slot of frame 4095, which is
    then dropped as already stored though it was never received. -/
theorem slot_discipline_fails :
    ¬ ∀ s, Runs.Reachable Session.Fresh
      (Runs.Guarded (fun _ op => op.reorders = true) (Session.Step .linux)) s →
      SlotDiscipline .linux s := by
  intro hall
  have hfresh : (htSession 4094 3).Fresh := htSession_fresh (by decide) (by decide)
  have hstep : ∀ op ∈ [Op.frame 0 (mpdu 0 false)], ∀ s s', Session.next .linux s op = some s' →
      Runs.Guarded (fun _ op => op.reorders = true) (Session.Step .linux) s op s' := by
    intro op hop s s' hs
    rw [List.mem_singleton.1 hop] at hs ⊢
    exact ⟨rfl, Session.next_step .linux hs⟩
  obtain ⟨s, hr, ho⟩ := Runs.exec_observe hfresh _ hstep
    (fun s => (decide (snDist 4095 s.rx.headSeqNum < s.rx.bufSize), s.received.map Skb.seq,
      (ieee80211StaManageReorderBuf .linux s.rx 0 (mpdu 4095 false)).map Prod.fst))
    (x := (true, [0], some .alreadyStored)) (by decide)
  simp only [Prod.mk.injEq] at ho
  obtain ⟨hin, hrec, hdrop⟩ := ho
  cases hm : ieee80211StaManageReorderBuf .linux s.rx 0 (mpdu 4095 false) with
  | none => rw [hm] at hdrop; cases hdrop
  | some r =>
    obtain ⟨fate, t', out⟩ := r
    rw [hm] at hdrop
    have hf : fate = .alreadyStored := Option.some.inj hdrop
    rw [hf] at hm
    obtain ⟨f, hmem, hseq⟩ := (hall s hr).fresh 0 (mpdu 4095 false) t' out (of_decide_eq_true hin) hm
    have h0 : f.seq ∈ s.received.map Skb.seq := List.mem_map_of_mem hmem
    rw [hrec, hseq] at h0
    revert h0
    decide

/-! ## Counting and staleness -/

/-- The counter is the number of complete slots, and nothing older than the head is held. -/
structure Accurate (t : TidAmpduRx) : Prop where
  stored : t.storedMpduNum = countWhere complete t.reorderBuf t.bufSize
  notBelowZero : t.storedMpduNum ≤ t.bufSize
  notStale : ∀ i, ∀ f ∈ t.reorderBuf i, k.snLess f.seq t.headSeqNum = false
  oneNumber : ∀ i, ∀ f ∈ t.reorderBuf i, ∀ g ∈ t.reorderBuf i, f.seq = g.seq

theorem Inv.accurate {t : TidAmpduRx} (h : Inv t) (hdvd : t.bufSize ∣ 4096) : Accurate k t := by
  refine ⟨h.stored, h.stored ▸ countWhere_le _ _ _, fun i f hf => ?_, fun i f hf g hg => ?_⟩
  · have hlt := h.head_lt
    have hle := h.size_le
    have hd := (h.place i f hf).2
    rw [k.snLess_eq_false (by omega)]
    omega
  · have hlt := h.head_lt
    have hfs := h.slotAfter_place (.inl hdvd) hf
    have hgs := h.slotAfter_place (.inl hdvd) hg
    have hd := slotAfter_inj (h.place i f hf).2 (h.place i g hg).2 (hfs.symm.trans hgs)
    have := f.seq_lt
    have := g.seq_lt
    unfold snDist at hd
    omega

/-- A session whose buffer size divides the sequence space was just set up. -/
def Session.FreshDividing (s : Session) : Prop := s.Fresh ∧ s.rx.bufSize ∣ 4096

/-- What holds between two calls on a session whose buffer size divides the sequence space. -/
def Session.DividingInv (s : Session) : Prop := Mac80211.Inv s.rx ∧ s.rx.bufSize ∣ 4096

theorem Session.dividing_inv {s : Session}
    (hr : Runs.Reachable Session.FreshDividing
      (Runs.Guarded (fun s op => op.Harmless k s.rx) (Session.Step k)) s) : s.DividingInv := by
  refine hr.invariant (fun s h0 => ⟨h0.1.1.inv, h0.2⟩) fun s op s' hi hs => ?_
  have he := Step.effect k hi.1 hs.1 hs.2.1
  exact ⟨he.inv, he.size ▸ hi.2⟩

/-- **With a buffer size that divides the sequence space, every state of a run of harmless calls
    counts its complete slots and holds nothing older than its head.** -/
theorem count_and_staleness {s : Session}
    (hr : Runs.Reachable Session.FreshDividing
      (Runs.Guarded (fun s op => op.Harmless k s.rx) (Session.Step k)) s) :
    Accurate k s.rx ∧ ∀ op : Op, op.Harmless k s.rx → ∃ t', Step k s.rx op t' := by
  obtain ⟨hi, hdvd⟩ := Session.dividing_inv k hr
  exact ⟨hi.accurate k hdvd, fun op hok => hok.step k hi⟩

/-- A subframe is held in a buffer of 64 frames. -/
theorem count_and_staleness_subframe :
    ∃ s, Runs.Reachable Session.FreshDividing
      (Runs.Guarded (fun s op => op.Harmless .linux s.rx) (Session.Step .linux)) s ∧
      s.rx.reorderBuf 1 = [mpdu 1 true] ∧ Accurate .linux s.rx := by
  obtain ⟨s, hs⟩ : ∃ s, s = htSession 4090 64 := ⟨_, rfl⟩
  obtain ⟨hok, t, ht, hbuf⟩ := htSession_subframe hs
  have hr : Runs.Reachable Session.FreshDividing
      (Runs.Guarded (fun s op => op.Harmless .linux s.rx) (Session.Step .linux))
      ⟨t, [mpdu 1 true]⟩ := by
    refine .next (.start ⟨hs ▸ htSession_fresh (by decide) (by decide), ?_⟩) ⟨hok, ⟨_, _, ht⟩, ?_⟩
    · subst hs; decide
    · subst hs; rfl
  exact ⟨_, hr, hbuf.1, (count_and_staleness .linux hr).1⟩

/-- Two runs on a buffer of 4 frames.  Subframe 0 of an A-MSDU that is not finished stays in the
    slot of the head when frame 1 is released on timeout, and is then older than the head.  A
    subframe that is marked as filtered is released as if it had been counted, and the counter
    goes below zero. -/
theorem count_and_staleness_fails :
    (¬ ∀ s, Runs.Reachable Session.FreshDividing
      (Session.Step .linux) s → Accurate .linux s.rx) ∧
    ∃ s, Runs.Reachable Session.FreshDividing
      (Session.Step .linux) s ∧ s.rx.storedMpduNum = 65535 := by
  have hfresh : (htSession 0 4).FreshDividing :=
    ⟨htSession_fresh (by decide) (by decide), by decide⟩
  have hstep : ∀ ops : List Op, ∀ op ∈ ops, ∀ s s', Session.next .linux s op = some s' →
      Session.Step .linux s op s' := fun _ _ _ _ _ => Session.next_step .linux
  constructor
  · intro hall
    obtain ⟨s, hr, ho⟩ := Runs.exec_observe hfresh _ (hstep
        [.frame 0 (mpdu 1 false), .frame 0 (mpdu 0 true), .timer 1000])
      (fun s => (s.rx.headSeqNum, s.rx.reorderBuf 0)) (x := (2, [mpdu 0 true])) (by decide)
    simp only [Prod.mk.injEq] at ho
    have hstale := (hall s hr).notStale 0 (mpdu 0 true) (by rw [ho.2]; exact List.mem_singleton.2 rfl)
    rw [ho.1] at hstale
    revert hstale
    decide
  · exact Runs.exec_observe hfresh _ (hstep
      [.frame 0 (mpdu 1 true), .markFiltered 0 0 2 0, .bar 2]) (fun s => s.rx.storedMpduNum)
      (by decide)

end Mac80211
