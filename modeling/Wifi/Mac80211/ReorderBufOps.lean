import Wifi.Mac80211.ReorderBufInv

/-!
# Calls on a receive reorder buffer

* `ieee80211StaReorderRelease_spec`, `arrive_spec`, `markFiltered_spec` — each function ends and
  keeps the invariant, under a condition on the state it is called in.
* `Op.Harmless` — the conditions of one call; `Op.apply_spec` — the step lemma.
-/

namespace Mac80211

open Slots

variable (k : KernelApi)

/-- **`ieee80211_sta_reorder_release` ends and keeps the invariant.** -/
theorem ieee80211StaReorderRelease_spec {t : TidAmpduRx} (h : Inv t) {jiffies : BitVec 64}
    (hok : TimeoutOk k t jiffies) :
    ∃ t' out, ieee80211StaReorderRelease k t jiffies = some (t', out) ∧ Inv t' ∧ Shrunk t t' := by
  unfold ieee80211StaReorderRelease
  by_cases hc : ieee80211RxReorderReady t (t.headSeqNum % t.bufSize) = false ∧ t.storedMpduNum ≠ 0
  · obtain ⟨e, t₁, out, hl, hi, hsh⟩ := timeoutLoop_spec k h hok hc.2 t.bufSize 1 0
      (Skipping.start h hc.1) (le_refl 1) (by omega) h.size_pos
    have hl' : timeoutLoop k jiffies (t.headSeqNum % t.bufSize) t.bufSize
        ((t.headSeqNum % t.bufSize + 1) % t.bufSize) 1 t = some (e, t₁, out) := hl
    rw [if_pos hc]
    simp only [hl']
    cases e with
    | setReleaseTimer j =>
      have hsame := setReleaseTimer_same k t₁ j
      exact ⟨_, out, rfl, hsame.inv hi, hsh.trans hsame.shrunk⟩
    | done =>
      obtain ⟨t₂, ha, hsame⟩ := armTimer_spec k hi
      simp only [ha]
      exact ⟨t₂, out, rfl, hsame.inv hi, hsh.trans hsame.shrunk⟩
  · obtain ⟨t₁, out, hl, hi, hsh⟩ := readyLoop_spec k (t.bufSize + 1) h
      (Nat.lt_succ_of_le (readyCount_le t))
    obtain ⟨t₂, ha, hsame⟩ := armTimer_spec k hi
    rw [if_neg hc]
    simp only [hl, ha]
    exact ⟨t₂, out, rfl, hsame.inv hi, hsh.trans hsame.shrunk⟩

/-! ## An arriving frame -/

theorem pickAutoSeq_inv {t : TidAmpduRx} (h : Inv t) (skb : Skb) : Inv (pickAutoSeq t skb.seq) := by
  unfold pickAutoSeq
  cases ha : t.autoSeq with
  | false => exact h
  | true =>
    have hempty := h.auto ha
    refine ⟨h.size_pos, h.size_le, skb.seq_lt, h.stored, h.filt, fun i f hf => ?_, fun _ => hempty⟩
    have hnil : f ∈ ([] : List Skb) := hempty i ▸ hf
    cases hnil

theorem Inv.setStarted {t : TidAmpduRx} (h : Inv t) : Inv { t with started := true } :=
  ⟨h.size_pos, h.size_le, h.head_lt, h.stored, h.filt, h.place, h.auto⟩

/-- The number of the frame is at most half the space ahead, and not so that a window of one
    frame cannot be moved to it. -/
def Reaches (t : TidAmpduRx) (skb : Skb) : Prop :=
  ¬(t.autoSeq = false ∧ t.bufSize = 1 ∧ snDist skb.seq t.headSeqNum = 2048)

/-- **After room was made the frame is in the window.** -/
theorem makeRoom_spec {t : TidAmpduRx} (h : Inv t) (skb : Skb)
    (hless : k.snLess skb.seq t.headSeqNum = false)
    (hreach : ¬(t.bufSize = 1 ∧ snDist skb.seq t.headSeqNum = 2048)) :
    ∃ t' out, makeRoom k t skb.seq = some (t', out) ∧ Inv t' ∧ Shrunk t t' ∧
      snDist skb.seq t'.headSeqNum < t.bufSize ∧
      (t' = t ∨ (t'.headSeqNum = (skb.seq + 4097 - t.bufSize) % 4096 ∧
        t.bufSize ≤ snDist skb.seq t.headSeqNum)) := by
  have hlt := h.head_lt
  have hle := h.size_le
  have hpos := h.size_pos
  have hseq := skb.seq_lt
  have hd := (k.snLess_eq_false (by omega)).1 hless
  unfold makeRoom
  cases hw : k.snLess skb.seq (t.headSeqNum + t.bufSize) with
  | true =>
    have hd' := (k.snLess_iff _ _ (by omega)).1 hw
    refine ⟨t, [], rfl, h, Shrunk.refl t, ?_, .inl rfl⟩
    unfold snDist at hd hd' ⊢
    omega
  | false =>
    have hd' := (k.snLess_eq_false (by omega)).1 hw
    have hnew : k.snInc (k.snSub skb.seq t.bufSize) = (skb.seq + 4097 - t.bufSize) % 4096 := by
      rw [k.snInc_eq, k.snSub_eq _ _ (by omega)]
      unfold snDist
      omega
    have hmoves : k.snLess t.headSeqNum (k.snInc (k.snSub skb.seq t.bufSize)) = true := by
      rw [hnew, k.snLess_iff _ _ (by omega)]
      unfold snDist at hd hd' hreach ⊢
      omega
    obtain ⟨t', out, hr, hi, hsh, hhead⟩ := ieee80211ReleaseReorderFrames_spec k
      (k.snInc_lt (k.snSub skb.seq t.bufSize)) snFuel h (.inr (le_refl _))
    rw [if_pos hmoves, hnew] at hhead
    refine ⟨t', out, hr, hi, hsh, ?_, .inr ⟨hhead, ?_⟩⟩
    · rw [hhead]
      unfold snDist
      omega
    · unfold snDist at hd hd' ⊢
      omega

/-- What storing a frame may do to a session: only this frame was added. -/
structure Added (t t' : TidAmpduRx) (skb : Skb) : Prop where
  size : t'.bufSize = t.bufSize
  held : ∀ i, ∀ f ∈ t'.reorderBuf i, f ∈ t.reorderBuf i ∨ f = skb
  filt : ∀ i, t'.filteredAt i = true → t.filteredAt i = true

theorem Shrunk.added {t t' : TidAmpduRx} (h : Shrunk t t') (skb : Skb) : Added t t' skb :=
  ⟨h.size, fun _ _ hf => .inl (h.mem hf).2, h.filt⟩

theorem Shrunk.then_added {t t' t'' : TidAmpduRx} {skb : Skb} (h : Shrunk t t')
    (h' : Added t' t'' skb) : Added t t'' skb := by
  refine ⟨h'.size.trans h.size, fun i f hf => ?_, fun i hi => h.filt i (h'.filt i hi)⟩
  rcases h'.held i f hf with hold | heq
  · exact .inl (h.mem hold).2
  · exact .inr heq

theorem Added.then_shrunk {t t' t'' : TidAmpduRx} {skb : Skb} (h : Added t t' skb)
    (h' : Shrunk t' t'') : Added t t'' skb :=
  ⟨h'.size.trans h.size, fun i f hf => h.held i f (h'.mem hf).2,
    fun i hi => h.filt i (h'.filt i hi)⟩

theorem put_inv {t : TidAmpduRx} (h : Inv t) (skb : Skb) (n : Nat) (time : Nat → BitVec 64)
    (hin : snDist skb.seq t.headSeqNum < t.bufSize) (hauto : t.autoSeq = false)
    (hr : ieee80211RxReorderReady t (skb.seq % t.bufSize) = false)
    (hn : n = t.storedMpduNum + (!skb.amsduMore).toNat) :
    Inv { t with
      reorderBuf := put t.reorderBuf (skb.seq % t.bufSize) [skb]
      reorderTime := time
      storedMpduNum := n } := by
  have hnr := not_ready_iff.1 hr
  refine ⟨h.size_pos, h.size_le, h.head_lt, ?_, ?_, ?_, fun ha => ?_⟩
  · have hu := countWhere_update complete t.reorderBuf (t.reorderBuf (skb.seq % t.bufSize) ++ [skb])
      (Nat.mod_lt skb.seq h.size_pos)
    rw [hnr.2, complete_append, ← h.stored, ← hn] at hu
    exact hu.symm
  · intro i hf hne
    show complete (put t.reorderBuf (skb.seq % t.bufSize) [skb] i) = true
    by_cases hi : i = skb.seq % t.bufSize
    · have hf' : t.filteredAt i = true := hf
      rw [hi, hnr.1] at hf'
      cases hf'
    · have hne' : put t.reorderBuf (skb.seq % t.bufSize) [skb] i ≠ [] := hne
      rw [put_ne _ _ hi] at hne' ⊢
      exact h.filt i hf hne'
  · intro i f hf
    have hf' : f ∈ put t.reorderBuf (skb.seq % t.bufSize) [skb] i := hf
    by_cases hi : i = skb.seq % t.bufSize
    · rw [hi, put_self, List.mem_append, List.mem_singleton] at hf'
      rcases hf' with hold | heq
      · obtain ⟨hp, hd⟩ := h.place _ f hold
        exact ⟨hi.trans hp, hd⟩
      · rw [heq]; exact ⟨hi, hin⟩
    · rw [put_ne _ _ hi] at hf'
      exact h.place i f hf'
  · have ha' : t.autoSeq = true := ha
    rw [hauto] at ha'
    cases ha'

theorem added_put (t : TidAmpduRx) (skb : Skb) (n : Nat) (time : Nat → BitVec 64) :
    Added t { t with
      reorderBuf := put t.reorderBuf (skb.seq % t.bufSize) [skb]
      reorderTime := time
      storedMpduNum := n } skb := by
  refine ⟨rfl, fun i f hf => ?_, fun _ hf => hf⟩
  have hf' : f ∈ put t.reorderBuf (skb.seq % t.bufSize) [skb] i := hf
  by_cases hi : i = skb.seq % t.bufSize
  · rw [hi, put_self, List.mem_append, List.mem_singleton] at hf'
    rw [hi]
    exact hf'
  · rw [put_ne _ _ hi] at hf'
    exact .inl hf'

/-- The head moves past a frame that is processed directly. -/
theorem skipHead_inv {t : TidAmpduRx} (h : Inv t)
    (hempty : t.reorderBuf (t.headSeqNum % t.bufSize) = []) :
    Inv { t with headSeqNum := k.snInc t.headSeqNum } := by
  refine ⟨h.size_pos, h.size_le, k.snInc_lt _, h.stored, h.filt, fun i f hf => ?_, h.auto⟩
  have hf' : f ∈ t.reorderBuf i := hf
  obtain ⟨hp, hd⟩ := h.place i f hf'
  have hne : f.seq ≠ t.headSeqNum := by
    intro heq
    rw [hp, heq, hempty] at hf'
    cases hf'
  refine ⟨hp, ?_⟩
  show snDist f.seq (k.snInc t.headSeqNum) < t.bufSize
  have := f.seq_lt
  have := h.head_lt
  rw [k.snInc_eq]
  unfold snDist at hd ⊢
  omega

/-- **Storing a frame that is in the window keeps the invariant**, unless it is processed
    directly over an incomplete A-MSDU of its own number. -/
theorem storeFrame_spec {t : TidAmpduRx} (h : Inv t) (jiffies : BitVec 64) (skb : Skb)
    (hin : snDist skb.seq t.headSeqNum < t.bufSize) (hauto : t.autoSeq = false)
    (hdirect : skb.seq = t.headSeqNum → t.storedMpduNum = 0 → skb.amsduMore = false →
      t.reorderBuf (t.headSeqNum % t.bufSize) = []) :
    Inv (storeFrame k t jiffies skb).2 ∧ Added t (storeFrame k t jiffies skb).2 skb ∧
      ((storeFrame k t jiffies skb).1 = .alreadyStored →
        ieee80211RxReorderReady t (skb.seq % t.bufSize) = true) := by
  have hsame : Added t t skb := (Shrunk.refl t).added skb
  simp only [storeFrame]
  by_cases hr : ieee80211RxReorderReady t (skb.seq % t.bufSize) = true
  · rw [if_pos hr]
    exact ⟨h, hsame, fun _ => hr⟩
  · rw [if_neg hr]
    by_cases hc : skb.seq = t.headSeqNum ∧ t.storedMpduNum = 0
    · rw [if_pos hc]
      cases hm : skb.amsduMore with
      | true => exact ⟨h, hsame, fun hf => by cases hf⟩
      | false =>
        exact ⟨skipHead_inv k h (hdirect hc.1 hc.2 hm),
          ⟨rfl, fun _ _ hf => .inl hf, fun _ hf => hf⟩, fun hf => by cases hf⟩
    · rw [if_neg hc]
      have hr' := Bool.eq_false_iff.2 hr
      cases hm : skb.amsduMore with
      | true =>
        have hn : t.storedMpduNum = t.storedMpduNum + (!skb.amsduMore).toNat := by rw [hm]; rfl
        exact ⟨put_inv h skb _ t.reorderTime hin hauto hr' hn, added_put t skb _ t.reorderTime,
          fun hf => by cases hf⟩
      | false =>
        have hcount := h.count_le
        have hst := h.stored
        have hn : (t.storedMpduNum + 1) % 65536 = t.storedMpduNum + (!skb.amsduMore).toNat := by
          rw [hm, Nat.mod_eq_of_lt (by omega)]; rfl
        exact ⟨put_inv h skb _ _ hin hauto hr' hn, added_put t skb _ _, fun hf => by cases hf⟩

/-- A frame that would be processed directly finds no subframes of its own number held. -/
def DirectOk (t : TidAmpduRx) (skb : Skb) : Prop :=
  skb.seq = t.headSeqNum → t.storedMpduNum = 0 → skb.amsduMore = false →
    t.reorderBuf (t.headSeqNum % t.bufSize) = []

theorem pickAutoSeq_false (t : TidAmpduRx) (n : Nat) : (pickAutoSeq t n).autoSeq = false := by
  unfold pickAutoSeq
  cases ha : t.autoSeq with
  | true => rfl
  | false => exact ha

theorem pickAutoSeq_added (t : TidAmpduRx) (skb : Skb) :
    Added t (pickAutoSeq t skb.seq) skb := by
  unfold pickAutoSeq
  split <;> exact ⟨rfl, fun _ _ hf => .inl hf, fun _ hf => hf⟩

theorem pickAutoSeq_ready (t : TidAmpduRx) (n i : Nat) :
    ieee80211RxReorderReady (pickAutoSeq t n) i = ieee80211RxReorderReady t i := by
  unfold pickAutoSeq
  split <;> rfl

/-- After room was made, too, a frame that is processed directly finds no subframes held. -/
theorem directOk_makeRoom {t t' : TidAmpduRx} (h : Inv t) (hi : Inv t') (hsh : Shrunk t t')
    {skb : Skb} (hd : DirectOk t skb)
    (hhead : t' = t ∨ (t'.headSeqNum = (skb.seq + 4097 - t.bufSize) % 4096 ∧
      t.bufSize ≤ snDist skb.seq t.headSeqNum)) : DirectOk t' skb := by
  rcases hhead with heq | ⟨hhead, hfar⟩
  · rw [heq]; exact hd
  · intro hseq _ _
    by_cases hne : t'.reorderBuf (t'.headSeqNum % t'.bufSize) = []
    · exact hne
    · -- a window of one frame was moved to the frame, so nothing else is held
      obtain ⟨f, hf⟩ := List.exists_mem_of_ne_nil _ hne
      have hnew := (hi.place _ f hf).2
      have hold := (h.place _ f (hsh.mem hf).2).2
      have := f.seq_lt
      have := skb.seq_lt
      have := h.head_lt
      have := h.size_le
      have := h.size_pos
      rw [hsh.size] at hnew
      unfold snDist at hnew hold hfar
      omega

/-- **An arriving frame keeps the invariant.** -/
theorem arrive_spec {t : TidAmpduRx} (h : Inv t) (jiffies : BitVec 64) {skb : Skb}
    (hreach : Reaches t skb) (hdirect : DirectOk t skb) :
    ∃ fate t' out, arrive k t jiffies skb = some (fate, t', out) ∧ Inv t' ∧ Added t t' skb ∧
      (fate = .alreadyStored → ieee80211RxReorderReady t (skb.seq % t.bufSize) = true) := by
  have h₁ := pickAutoSeq_inv h skb
  have hauto := pickAutoSeq_false t skb.seq
  have hadd := pickAutoSeq_added t skb
  have hready := pickAutoSeq_ready t skb.seq
  have hreach₁ : ¬((pickAutoSeq t skb.seq).bufSize = 1 ∧
      snDist skb.seq (pickAutoSeq t skb.seq).headSeqNum = 2048) := by
    unfold pickAutoSeq
    cases ha : t.autoSeq with
    | true =>
      intro hb
      have hd : snDist skb.seq skb.seq = 2048 := hb.2
      unfold snDist at hd
      omega
    | false => exact fun hb => hreach ⟨ha, hb⟩
  have hdirect₁ : DirectOk (pickAutoSeq t skb.seq) skb := by
    unfold pickAutoSeq
    cases ha : t.autoSeq with
    | true => exact fun _ _ _ => h.auto ha _
    | false => exact hdirect
  revert h₁ hauto hadd hready hreach₁ hdirect₁
  simp only [arrive]
  generalize pickAutoSeq t skb.seq = t₁
  intro h₁ hauto hadd hready hreach₁ hdirect₁
  by_cases hstart : t₁.started = false ∧ k.snLess skb.seq t₁.headSeqNum = true
  · rw [if_pos hstart]
    exact ⟨.process, t₁, [], rfl, h₁, hadd, fun hf => by cases hf⟩
  · rw [if_neg hstart]
    have h₂ := h₁.setStarted
    have hadd₂ : Added t { t₁ with started := true } skb := ⟨hadd.size, hadd.held, hadd.filt⟩
    by_cases hless : k.snLess skb.seq t₁.headSeqNum = true
    · rw [if_pos hless]
      exact ⟨.outOfDate, _, [], rfl, h₂, hadd₂, fun hf => by cases hf⟩
    · rw [if_neg hless]
      obtain ⟨t₃, out, hroom, h₃, hsh, hin, hhead⟩ :=
        makeRoom_spec k h₂ skb (Bool.eq_false_iff.2 hless) hreach₁
      have hauto₃ : t₃.autoSeq = false := hsh.autoSeq.trans hauto
      obtain ⟨h₄, hst, hal⟩ := storeFrame_spec k h₃ jiffies skb (hsh.size ▸ hin) hauto₃
        (directOk_makeRoom h₂ h₃ hsh hdirect₁ hhead)
      rw [hroom]
      refine ⟨_, _, out, rfl, h₄, ⟨?_, fun i f hf => ?_, fun i hf => ?_⟩, fun hf => ?_⟩
      · exact (hst.size.trans hsh.size).trans hadd.size
      · rcases (hsh.then_added hst).held i f hf with hold | heq
        · exact hadd.held i f hold
        · exact .inr heq
      · exact hadd.filt i ((hsh.then_added hst).filt i hf)
      · have hr := hsh.ready (hal hf)
        rw [hsh.size] at hr
        have hr₁ : ieee80211RxReorderReady t₁ (skb.seq % t₁.bufSize) = true := hr
        rw [hready, hadd.size] at hr₁
        exact hr₁

/-! ## Marking filtered frames -/

/-- How far the given start lies behind the head, when the release did not move the head. -/
def lag (t : TidAmpduRx) (ssn : Nat) : Nat :=
  if k.snLess t.headSeqNum ssn = true then 0 else snDist t.headSeqNum ssn

/-- The bitmap of filtered frames has room for the window, and no frame it marks belongs to an
    incomplete A-MSDU that is held. -/
def MarkOk (t : TidAmpduRx) (ssn : Nat) (filtered : BitVec 64) (receivedMpdus : Nat) : Prop :=
  t.bufSize ∣ 4096 ∧ t.bufSize ≤ 64 ∧
    (receivedMpdus < 2048 → lag k t ssn < t.bufSize →
      ∀ i, i < t.bufSize → filtered.getLsbD (lag k t ssn + i) = true →
        ∀ j, ∀ f ∈ t.reorderBuf j, f.seq = (ssn + lag k t ssn + i) % 4096 →
          complete (t.reorderBuf j) = true)

theorem bitUll_getLsbD (n x : Nat) : (bitUll n).getLsbD x = (decide (n < 64) && decide (n = x)) :=
  BitVec.getLsbD_twoPow n x

theorem and_bitUll_ne_zero (f : BitVec 64) (n : Nat) :
    f &&& bitUll n ≠ 0 ↔ f.getLsbD n = true := by
  have he : f &&& bitUll n = if f.getLsbD n then bitUll n else 0#64 := BitVec.and_twoPow f n
  rw [he]
  cases hb : f.getLsbD n with
  | false => simp
  | true =>
    have hn : n < 64 := BitVec.lt_of_getLsbD hb
    refine ⟨fun _ => rfl, fun _ h0 => ?_⟩
    have hbit := bitUll_getLsbD n n
    rw [if_pos rfl] at h0
    rw [h0, decide_eq_true hn, decide_eq_true rfl] at hbit
    simp at hbit

theorem filteredAt_iff {t : TidAmpduRx} {i : Nat} :
    t.filteredAt i = true ↔ t.reorderBufFiltered.getLsbD i = true := by
  unfold TidAmpduRx.filteredAt
  rw [Bool.and_eq_true, decide_eq_true_eq, decide_eq_true_eq, and_bitUll_ne_zero]
  refine ⟨And.right, fun h => ⟨fun h0 => ?_, h⟩⟩
  rw [h0] at h
  simp at h

/-- **A slot marked by the loop** is that of a filtered frame, unless the loop left it alone. -/
theorem markLoop_getLsbD (b ssn : Nat) (filtered : BitVec 64) : ∀ (n i : Nat) (bits : BitVec 64)
    (x : Nat), (markLoop b ssn filtered n i bits).getLsbD x = true →
    (∃ m, i ≤ m ∧ m < i + n ∧ (ssn + m) % b = x ∧ filtered.getLsbD m = true) ∨
      ((∀ m, i ≤ m → m < i + n → (ssn + m) % b ≠ x) ∧ bits.getLsbD x = true)
  | 0, i, bits, x, h => .inr ⟨fun m _ _ => by omega, h⟩
  | n + 1, i, bits, x, h => by
    simp only [markLoop] at h
    rcases markLoop_getLsbD b ssn filtered n (i + 1) _ x h with ⟨m, h1, h2, hm⟩ | ⟨hno, hbit⟩
    · exact .inl ⟨m, by omega, by omega, hm⟩
    · by_cases hx : (ssn + i) % b = x
      · left
        refine ⟨i, le_refl i, by omega, hx, ?_⟩
        by_cases hf : filtered &&& bitUll i ≠ 0
        · exact (and_bitUll_ne_zero _ _).1 hf
        · have hbit' : (bits &&& ~~~(bitUll x)).getLsbD x = true := by
            rw [if_neg hf, hx] at hbit
            exact hbit
          have hlt : x < 64 := BitVec.lt_of_getLsbD hbit'
          rw [BitVec.getLsbD_and, BitVec.getLsbD_not, bitUll_getLsbD, decide_eq_true hlt,
            decide_eq_true rfl] at hbit'
          simp at hbit'
      · right
        refine ⟨fun m h1 h2 => ?_, ?_⟩
        · by_cases hmi : m = i
          · rw [hmi]; exact hx
          · exact hno m (by omega) (by omega)
        · have hcleared : (bits &&& ~~~(bitUll ((ssn + i) % b))).getLsbD x = true := by
            by_cases hf : filtered &&& bitUll i ≠ 0
            · rw [if_pos hf, BitVec.getLsbD_or, bitUll_getLsbD, decide_eq_false hx] at hbit
              simpa using hbit
            · rw [if_neg hf] at hbit
              exact hbit
          rw [BitVec.getLsbD_and] at hcleared
          exact (Bool.and_eq_true_iff.1 hcleared).1

/-- Everything held is gone when the head moves on by a whole window. -/
theorem release_window {t t' : TidAmpduRx} (h : Inv t) (hi : Inv t') (hsh : Shrunk t t')
    (hhead : t'.headSeqNum = (t.headSeqNum + t.bufSize) % 4096) (i : Nat) :
    t'.reorderBuf i = [] := by
  by_cases hne : t'.reorderBuf i = []
  · exact hne
  · obtain ⟨f, hf⟩ := List.exists_mem_of_ne_nil _ hne
    have hnew := (hi.place _ f hf).2
    have hold := (h.place _ f (hsh.mem hf).2).2
    have := f.seq_lt
    have := h.head_lt
    have := h.size_le
    rw [hsh.size, hhead] at hnew
    unfold snDist at hnew hold
    omega

theorem Inv.setFiltered {t : TidAmpduRx} (h : Inv t) {bits : BitVec 64}
    (hb : ∀ i, bits.getLsbD i = true → t.reorderBuf i ≠ [] → complete (t.reorderBuf i) = true) :
    Inv { t with reorderBufFiltered := bits } :=
  ⟨h.size_pos, h.size_le, h.head_lt, h.stored, fun i hf hne => hb i (filteredAt_iff.1 hf) hne,
    h.place, h.auto⟩

theorem Inv.setHead {t : TidAmpduRx} (h : Inv t) (hempty : ∀ i, t.reorderBuf i = []) {n : Nat}
    (hn : n < 4096) : Inv { t with headSeqNum := n } := by
  refine ⟨h.size_pos, h.size_le, hn, h.stored, h.filt, fun i f hf => ?_, h.auto⟩
  have hnil : f ∈ ([] : List Skb) := hempty i ▸ hf
  cases hnil

/-- The first part of marking: the head moved towards the given start. -/
theorem markMove_spec {t : TidAmpduRx} (h : Inv t) {ssn : Nat} (hssn : ssn < 4096)
    (receivedMpdus : Nat) :
    ∃ t' out, markMove k t ssn receivedMpdus = some (t', out) ∧ Inv t' ∧
      t'.bufSize = t.bufSize ∧ (∀ i, t'.reorderBuf i = t.reorderBuf i ∨ t'.reorderBuf i = []) ∧
      ((∀ i, t'.reorderBuf i = []) ∨
        (receivedMpdus < 2048 ∧ snDist t'.headSeqNum ssn = lag k t ssn)) := by
  unfold markMove
  by_cases hr : 4096 / 2 ≤ receivedMpdus
  · obtain ⟨t₁, out, hrel, h₁, hsh, hhead⟩ := ieee80211ReleaseReorderFrames_spec k
      (Nat.mod_lt (t.headSeqNum + t.bufSize) (by decide : 0 < 4096)) snFuel h (.inr (le_refl _))
    have hmoves : k.snLess t.headSeqNum ((t.headSeqNum + t.bufSize) % 4096) = true := by
      have := h.head_lt
      have := h.size_le
      have := h.size_pos
      rw [k.snLess_iff _ _ (by omega)]
      unfold snDist
      omega
    rw [if_pos hmoves] at hhead
    have hempty := release_window h h₁ hsh hhead
    rw [if_pos hr, hrel]
    exact ⟨_, out, rfl, h₁.setHead hempty hssn, hsh.size, hsh.buf, .inl hempty⟩
  · obtain ⟨t₁, out, hrel, h₁, hsh, hhead⟩ :=
      ieee80211ReleaseReorderFrames_spec k hssn snFuel h (.inr (le_refl _))
    rw [if_neg hr, hrel]
    refine ⟨t₁, out, rfl, h₁, hsh.size, hsh.buf, .inr ⟨by omega, ?_⟩⟩
    unfold lag
    cases hl : k.snLess t.headSeqNum ssn with
    | true =>
      rw [hl, if_pos rfl] at hhead
      rw [if_pos rfl, hhead]
      unfold snDist
      omega
    | false =>
      rw [hl, if_neg Bool.false_ne_true] at hhead
      rw [if_neg Bool.false_ne_true, hhead]

/-- **Marking filtered frames keeps the invariant.** -/
theorem markFiltered_spec {t : TidAmpduRx} (h : Inv t) {ssn : Nat} (hssn : ssn < 4096)
    {filtered : BitVec 64} {receivedMpdus : Nat} (hok : MarkOk k t ssn filtered receivedMpdus) :
    ∃ again t' out, markFiltered k t ssn filtered receivedMpdus = some (again, t', out) ∧
      Inv t' ∧ t'.bufSize = t.bufSize ∧
      ∀ i, t'.reorderBuf i = t.reorderBuf i ∨ t'.reorderBuf i = [] := by
  obtain ⟨hdvd, -, hmark⟩ := hok
  obtain ⟨t₁, out, hm, h₁, hsize, hbuf, hwhere⟩ := markMove_spec k h hssn receivedMpdus
  by_cases hfar : t₁.bufSize ≤ snDist t₁.headSeqNum ssn
  · simp only [markFiltered, hm, if_pos hfar]
    refine ⟨false, _, out, rfl, ?_, hsize, hbuf⟩
    exact h₁.setFiltered fun i hi => by simp at hi
  · simp only [markFiltered, hm, if_neg hfar]
    refine ⟨true, _, out, rfl, ?_, hsize, hbuf⟩
    refine h₁.setFiltered fun x hx hne => ?_
    rcases hwhere with hempty | ⟨hfew, hlag⟩
    · exact absurd (hempty x) hne
    · obtain ⟨f, hf⟩ := List.exists_mem_of_ne_nil _ hne
      obtain ⟨hp, hd⟩ := h₁.place x f hf
      have hseq := f.seq_lt
      have hlt := h₁.head_lt
      have hsize₁ := h₁.size_le
      -- the slot of a held frame is that of its place after the head
      have hfseq : f.seq = (ssn + snDist t₁.headSeqNum ssn + snDist f.seq t₁.headSeqNum) % 4096 := by
        unfold snDist
        omega
      have hsn : (ssn + snDist t₁.headSeqNum ssn) % 65536 = ssn + snDist t₁.headSeqNum ssn := by
        unfold snDist
        omega
      have hslot : (ssn + snDist t₁.headSeqNum ssn + snDist f.seq t₁.headSeqNum) % t₁.bufSize = x := by
        rw [hp, hfseq, Nat.mod_mod_of_dvd _ (hsize ▸ hdvd), ← hfseq]
      rw [hsn] at hx
      have hx' := markLoop_getLsbD t₁.bufSize _ _ _ 0 _ x hx
      rw [Nat.zero_add] at hx'
      rcases hx' with ⟨m, -, hmlt, hmx, hbit⟩ | ⟨hno, -⟩
      · have hmod := Nat.ModEq.add_left_cancel' (ssn + snDist t₁.headSeqNum ssn) (hmx.trans hslot.symm)
        unfold Nat.ModEq at hmod
        rw [Nat.mod_eq_of_lt hmlt, Nat.mod_eq_of_lt hd] at hmod
        rw [BitVec.getLsbD_ushiftRight, hlag] at hbit
        have hheld : t₁.reorderBuf x = t.reorderBuf x := by
          rcases hbuf x with he | he
          · exact he
          · exact absurd he hne
        rw [hheld] at hf ⊢
        refine hmark hfew (by rw [← hlag]; omega) m (by omega) hbit x f hf ?_
        rw [← hlag, hmod]
        exact hfseq
      · exact absurd hslot (hno _ (Nat.zero_le _) hd)

/-! ## One call -/

/-- What a call needs of the state it is made in, up to `ieee80211_sta_reorder_release`. -/
def Op.Careful (t : TidAmpduRx) : Op → Prop
  | .frame _ skb => Reaches t skb ∧ DirectOk t skb
  | .markFiltered _ ssn filtered receivedMpdus => MarkOk k t ssn.toNat filtered receivedMpdus
  | .timer _ | .bar _ | .stop => True

/-- A call that takes none of the branches that go wrong. -/
structure Op.Harmless (t : TidAmpduRx) (op : Op) : Prop where
  careful : op.Careful k t
  release : ∀ t₁ jiffies, op.releaseEntry k t = some (t₁, jiffies) → TimeoutOk k t₁ jiffies

/-- The calls of the receive path itself: frames and the reorder timer. -/
def Op.reorders : Op → Bool
  | .frame _ _ | .timer _ => true
  | .bar _ | .markFiltered _ _ _ _ | .stop => false

structure Op.Effect (t t' : TidAmpduRx) (op : Op) : Prop where
  inv : Inv t'
  size : t'.bufSize = t.bufSize
  held : ∀ i, ∀ f ∈ t'.reorderBuf i, f ∈ t.reorderBuf i ∨ f ∈ op.received
  filt : op.reorders = true → ∀ i, t'.filteredAt i = true → t.filteredAt i = true

theorem frame_spec {t : TidAmpduRx} (h : Inv t) (jiffies : BitVec 64) {skb : Skb}
    (hok : (Op.frame jiffies skb).Harmless k t) :
    ∃ fate t' out, ieee80211StaManageReorderBuf k t jiffies skb = some (fate, t', out) ∧
      (Op.frame jiffies skb).Effect t t' ∧
      (fate = .alreadyStored → ieee80211RxReorderReady t (skb.seq % t.bufSize) = true) := by
  obtain ⟨fate, t₁, out, ha, h₁, hadd, hal⟩ := arrive_spec k h jiffies hok.careful.1 hok.careful.2
  have heffect : ∀ {t'}, Inv t' → Shrunk t₁ t' → (Op.frame jiffies skb).Effect t t' :=
    fun hi hsh => ⟨hi, (hadd.then_shrunk hsh).size,
      fun i f hf => ((hadd.then_shrunk hsh).held i f hf).imp_right fun he => by
        rw [he]; exact List.mem_singleton.2 rfl,
      fun _ => (hadd.then_shrunk hsh).filt⟩
  unfold ieee80211StaManageReorderBuf
  rw [ha]
  by_cases hb : fate = .buffered ∧ skb.amsduMore = false
  · have hentry : (Op.frame jiffies skb).releaseEntry k t = some (t₁, jiffies) := by
      simp only [Op.releaseEntry, ha, hb.1, hb.2]
      rfl
    obtain ⟨t₂, out₂, hr, h₂, hsh⟩ := ieee80211StaReorderRelease_spec k h₁ (hok.release _ _ hentry)
    simp only [if_pos hb, hr]
    exact ⟨fate, t₂, out ++ out₂, rfl, heffect h₂ hsh, hal⟩
  · simp only [if_neg hb]
    exact ⟨fate, t₁, out, rfl, heffect h₁ (Shrunk.refl t₁), hal⟩

theorem markCall_spec {t : TidAmpduRx} (h : Inv t) (jiffies : BitVec 64) {ssn : BitVec 12}
    {filtered : BitVec 64} {receivedMpdus : Nat}
    (hok : (Op.markFiltered jiffies ssn filtered receivedMpdus).Harmless k t) :
    ∃ t' out, ieee80211MarkRxBaFilteredFrames k t jiffies ssn.toNat filtered receivedMpdus =
      some (t', out) ∧ (Op.markFiltered jiffies ssn filtered receivedMpdus).Effect t t' := by
  obtain ⟨again, t₁, out, hm, h₁, hsize, hbuf⟩ := markFiltered_spec k h ssn.isLt hok.careful
  have hheld : ∀ i, ∀ f ∈ t₁.reorderBuf i, f ∈ t.reorderBuf i := by
    intro i f hf
    rcases hbuf i with he | he
    · exact he ▸ hf
    · rw [he] at hf; cases hf
  unfold ieee80211MarkRxBaFilteredFrames
  rw [hm]
  cases again with
  | false => exact ⟨t₁, out, rfl, h₁, hsize, fun i f hf => .inl (hheld i f hf), fun hr => by cases hr⟩
  | true =>
    have hentry : (Op.markFiltered jiffies ssn filtered receivedMpdus).releaseEntry k t =
        some (t₁, jiffies) := by
      simp only [Op.releaseEntry, hm]
    obtain ⟨t₂, out₂, hr, h₂, hsh⟩ := ieee80211StaReorderRelease_spec k h₁ (hok.release _ _ hentry)
    simp only [hr]
    exact ⟨t₂, out ++ out₂, rfl, h₂, hsh.size.trans hsize,
      fun i f hf => .inl (hheld i f (hsh.mem hf).2), fun hr => by cases hr⟩

/-- **The step lemma.**  A harmless call returns and keeps the invariant. -/
theorem Op.apply_spec {t : TidAmpduRx} (h : Inv t) {op : Op} (hok : op.Harmless k t) :
    ∃ t' fate out, op.apply k t = some (t', fate, out) ∧ op.Effect t t' := by
  have heffect : ∀ {t'}, Inv t' → Shrunk t t' → op.Effect t t' := fun hi hsh =>
    ⟨hi, hsh.size, fun _ _ hf => .inl (hsh.mem hf).2, fun _ => hsh.filt⟩
  cases op with
  | frame jiffies skb =>
    obtain ⟨fate, t', out, hm, he, -⟩ := frame_spec k h jiffies hok
    exact ⟨t', some fate, out, by simp only [Op.apply, hm]; rfl, he⟩
  | timer jiffies =>
    obtain ⟨t', out, hr, hi, hsh⟩ := ieee80211StaReorderRelease_spec k h (hok.release _ _ rfl)
    exact ⟨t', none, out, by simp only [Op.apply, hr]; rfl, heffect hi hsh⟩
  | bar startSeqNum =>
    obtain ⟨t', out, hr, hi, hsh, -⟩ :=
      ieee80211ReleaseReorderFrames_spec k startSeqNum.isLt snFuel h (.inr (le_refl _))
    exact ⟨t', none, out, by simp only [Op.apply, hr]; rfl, heffect hi hsh⟩
  | markFiltered jiffies ssn filtered receivedMpdus =>
    obtain ⟨t', out, hm, he⟩ := markCall_spec k h jiffies hok
    exact ⟨t', none, out, by simp only [Op.apply, hm]; rfl, he⟩
  | stop =>
    refine ⟨_, none, [], rfl, heffect ?_ ⟨rfl, rfl, rfl, fun _ => .inl rfl, fun _ hf => hf⟩⟩
    exact ⟨h.size_pos, h.size_le, h.head_lt, h.stored, h.filt, h.place, h.auto⟩

theorem Step.effect {t t' : TidAmpduRx} (h : Inv t) {op : Op} (hok : op.Harmless k t)
    (hs : Step k t op t') : op.Effect t t' := by
  obtain ⟨fate, out, ha⟩ := hs
  obtain ⟨t₁, fate₁, out₁, ha₁, he⟩ := Op.apply_spec k h hok
  rw [ha, Option.some.injEq, Prod.mk.injEq] at ha₁
  rw [ha₁.1]
  exact he

theorem Op.Harmless.step {t : TidAmpduRx} (h : Inv t) {op : Op} (hok : op.Harmless k t) :
    ∃ t', Step k t op t' := by
  obtain ⟨t', fate, out, ha, -⟩ := Op.apply_spec k h hok
  exact ⟨t', fate, out, ha⟩

theorem StartRequest.clampedSize_le (r : StartRequest) (h : r.bufSize ≤ r.maxBufSize) :
    r.clampedSize ≤ 1024 := by
  have hmax : r.maxBufSize ≤ 1024 := by
    unfold StartRequest.maxBufSize
    split
    · exact le_refl _
    · split <;> decide
  unfold StartRequest.clampedSize
  split <;> omega

/-- **A session is set up with the invariant.** -/
theorem Installed.inv {t : TidAmpduRx} (h : Installed t) : Inv t := by
  obtain ⟨hpos, r, hr⟩ := h
  unfold ieee80211StartRxBaSession at hr
  repeat' split at hr
  all_goals cases hr
  rename_i hsize _ _ _
  rw [not_or, Nat.not_lt] at hsize
  have hempty : countWhere complete (fun _ => []) r.clampedSize = 0 := by
    simp [countWhere]
  refine ⟨hpos, r.clampedSize_le hsize.2, r.startSeqNum.isLt, hempty.symm, fun i hi => ?_,
    fun _ _ hf => (List.not_mem_nil hf).elim, fun _ _ => rfl⟩
  rw [filteredAt_iff] at hi
  simp at hi

end Mac80211
