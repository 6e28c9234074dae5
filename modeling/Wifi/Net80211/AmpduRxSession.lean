import Mathlib.Algebra.BigOperators.Group.Finset.Basic
import Wifi.Net80211.AmpduRxInv

/-!
# Runs of a receive block-ack session

* `Reordered` — the ways `ieee80211_ampdu_reorder` can go from its label `again` on;
  `reorderAgain_spec` — it takes one of them and returns (the fuel suffices).
* `Inv` — the invariant of a session: its `Window`, and what the flags say about it.
* `Op.session_inv` — every call keeps `Inv` and trips no `KASSERT`; `reachable_inv` — so `Inv`
  holds after every run from `ieee80211_ht_node_init`.
-/

namespace Net80211

open Slots Runs

/-! ## The paths of `ieee80211_ampdu_reorder` -/

variable {clk : Clock} {rxseq : Nat} {m : Mbuf} {rxs : Option RxStats}

/-- From a session to the session, verdict and dispatched frames `ieee80211_ampdu_reorder`
    leaves, from the label `again` on. -/
inductive Reordered (clk : Clock) (rxseq : Nat) (m : Mbuf) (rxs : Option RxStats) :
    RxAmpdu → RxAmpdu → Verdict → List Mbuf → Prop where
  /-- The head of the window arrives and completes a run. -/
  | run {rap rap' : RxAmpdu} {i : Nat} : rxseq = rap.rxaStart → rap.rxaQframes ≠ 0 →
      Advanced rap rap' i → Window rap' →
      Reordered clk rxseq m rxs rap rap' .consumed (ampduDispatch m :: dispatched rap.rxaMq 1 i)
  /-- The head of the window arrives and nothing is held. -/
  | direct {rap : RxAmpdu} : rxseq = rap.rxaStart → rap.rxaQframes = 0 →
      Reordered clk rxseq m rxs rap
        (directStart rap rxseq (ieee80211CheckRxseqAmsdu rxs) (ieee80211CheckRxseqAmsduMore rxs))
        .process []
  /-- Inside the window, after frames were held for too long. -/
  | aged {rap rap' : RxAmpdu} : rxseq ≠ rap.rxaStart → seqSub rxseq rap.rxaStart < rap.rxaWnd →
      rap.rxaQframes ≠ 0 → rap.aged clk = true →
      rap'.bare = rap.bare → Window rap' → (∀ i, rap'.rxaMq i = []) →
      Reordered clk rxseq m rxs rap
        (directStart rap' rxseq (ieee80211CheckRxseqAmsdu rxs) (ieee80211CheckRxseqAmsduMore rxs))
        .process (dispatched rap.rxaMq 0 rap.rxaWnd)
  /-- Inside the window; only the age of the session may have been set. -/
  | store {rap rap' : RxAmpdu} : rxseq ≠ rap.rxaStart → seqSub rxseq rap.rxaStart < rap.rxaWnd →
      (∃ age, rap' = { rap with rxaAge := age }) →
      Reordered clk rxseq m rxs rap
        (ampduRxAddSlot rap' (seqSub rxseq rap.rxaStart) m rxs) .consumed []
  /-- Past the window: the window moves and the frame is looked at again. -/
  | move {rap rap1 rap' : RxAmpdu} {i : Nat} {v : Verdict} {out : List Mbuf} :
      rap.rxaWnd ≤ seqSub rxseq rap.rxaStart → seqSub rxseq rap.rxaStart < 2048 →
      Advanced rap rap1 i → Window rap1 → Reordered clk rxseq m rxs rap1 rap' v out →
      Reordered clk rxseq m rxs rap rap' v (dispatched rap.rxaMq 0 i ++ out)
  /-- Out of range. -/
  | toss {rap : RxAmpdu} : 2048 ≤ seqSub rxseq rap.rxaStart →
      Reordered clk rxseq m rxs rap rap .consumed []

/-- **`ieee80211_ampdu_reorder` trips no `KASSERT` and returns**, in one of the ways above. -/
theorem reorderAgain_spec (clk : Clock) (m : Mbuf) (rxs : Option RxStats) (hseq : rxseq < 4096) : ∀ (fuel : Nat) (rap : RxAmpdu), Window rap →
    0 < rap.rxaWnd → seqSub rxseq rap.rxaStart < fuel →
    ∃ rap' v out, reorderAgain clk rxseq m rxs fuel rap = .ok (rap', v, out) ∧
      Reordered clk rxseq m rxs rap rap' v out
  | 0, _, _, _, hf => absurd hf (Nat.not_lt_zero _)
  | fuel + 1, rap, hw, hpos, hf => by
    have hslt := hw.start_lt
    unfold reorderAgain
    by_cases hhead : rxseq = rap.rxaStart
    · rw [if_pos hhead]
      by_cases hq : rap.rxaQframes ≠ 0
      · rw [if_pos hq, if_neg (not_not.2 hw.slot0)]
        obtain ⟨rap', i, hok, hadv, hw'⟩ := ampduRxDispatch_spec hw hpos
        rw [hok]
        exact ⟨_, _, _, rfl, .run hhead hq hadv hw'⟩
      · rw [if_neg hq]
        exact ⟨_, _, _, rfl, .direct hhead (not_not.1 hq)⟩
    · rw [if_neg hhead]
      dsimp only
      by_cases hin : seqSub rxseq rap.rxaStart < rap.rxaWnd
      · rw [if_pos hin]
        by_cases hq : rap.rxaQframes ≠ 0
        · rw [if_pos hq]
          by_cases hage : rap.aged clk = true
          · rw [if_pos hage]
            obtain ⟨rap', hok, hb, hw', he⟩ := ampduRxFlush_spec hw
            rw [hok]
            exact ⟨_, _, _, rfl, .aged hhead hin hq hage hb hw' he⟩
          · rw [if_neg hage]
            exact ⟨_, _, _, rfl, .store hhead hin ⟨rap.rxaAge, rfl⟩⟩
        · rw [if_neg hq]
          exact ⟨_, _, _, rfl, .store hhead hin ⟨clk.ticks, rfl⟩⟩
      · rw [if_neg hin]
        by_cases hrange : seqSub rxseq rap.rxaStart < IEEE80211_SEQ_BA_RANGE
        · rw [if_pos hrange]
          have hlt : seqSub rxseq rap.rxaStart < 2048 := hrange
          have hwnd : rap.rxaWnd ≤ 64 := hw.wnd_le
          have hbef : seqBaBefore rap.rxaStart (seqSub rxseq (rap.rxaWnd - 1)) := by
            simp only [seqBaBefore, seqSub] at hlt hin ⊢
            omega
          obtain ⟨rap1, i, hok, hadv, hw1, -⟩ := ampduRxFlushUpto_spec hw hpos hbef
          have hi := hadv.pos
          have hiw := hadv.le_wnd
          have hoff : seqSub rxseq rap1.rxaStart < fuel := by
            rw [hadv.start]
            simp only [seqSub, seqAdd] at hf hin hlt ⊢
            omega
          obtain ⟨rap', v, out, hok', hr⟩ := reorderAgain_spec clk m rxs hseq fuel rap1 hw1
            (by rw [hadv.same.wnd]; exact hpos) hoff
          rw [hok]
          simp only [hok']
          exact ⟨_, _, _, rfl, .move (by omega) hlt hadv hw1 hr⟩
        · rw [if_neg hrange]
          have hge : ¬ seqSub rxseq rap.rxaStart < 2048 := hrange
          exact ⟨_, _, _, rfl, .toss (by omega)⟩

theorem directStart_window {rap : RxAmpdu} (hw : Window rap) (he : ∀ i, rap.rxaMq i = [])
    (rxseq : Nat) (amsdu amsduEnd : Bool) :
    Window (directStart rap rxseq amsdu amsduEnd) := by
  unfold directStart
  split
  · exact hw
  · exact Window.of_empty hw.wnd_le (by simp; omega) (hw.qframes_zero fun i _ => he i)
      (hw.qbytes_zero fun i _ => he i) he

theorem directStart_same (rap : RxAmpdu) (rxseq : Nat) (amsdu amsduEnd : Bool) :
    SameSession rap (directStart rap rxseq amsdu amsduEnd) := by
  unfold directStart
  split <;> exact ⟨rfl, rfl, rfl, rfl⟩

theorem directStart_mq (rap : RxAmpdu) (rxseq : Nat) (amsdu amsduEnd : Bool) :
    (directStart rap rxseq amsdu amsduEnd).rxaMq = rap.rxaMq := by
  unfold directStart
  split <;> rfl

theorem Window.empty {rap : RxAmpdu} (hw : Window rap) (h0 : rap.rxaQframes = 0) (i : Nat) :
    rap.rxaMq i = [] := by
  by_cases hi : i < rap.rxaWnd
  · exact hw.toAccounted.empty h0 i hi
  · exact hw.beyond i (by omega)

theorem Window.setAge {rap : RxAmpdu} (hw : Window rap) (age : Int) :
    Window { rap with rxaAge := age } :=
  ⟨⟨hw.wnd_le, hw.len_le, hw.qframes, hw.qbytes⟩, hw.start_lt, hw.slot0, hw.beyond, hw.seqs⟩

theorem seqAdd_seqSub {a b : Nat} (ha : a < 4096) (hb : b < 4096) : a = seqAdd b (seqSub a b) := by
  simp; omega

theorem Reordered.window (hm : m.seq = rxseq) {rap rap' : RxAmpdu} {v : Verdict}
    {out : List Mbuf} (hr : Reordered clk rxseq m rxs rap rap' v out) (hw : Window rap) :
    Window rap' ∧ SameSession rap rap' := by
  induction hr with
  | run _ _ hadv hw' => exact ⟨hw', hadv.same⟩
  | direct _ hq => exact ⟨directStart_window hw (hw.empty hq) _ _ _, directStart_same _ _ _ _⟩
  | aged _ _ _ _ hb hw' he =>
    exact ⟨directStart_window hw' he _ _ _,
      (SameSession.of_bare hb).trans (directStart_same _ _ _ _)⟩
  | @store rap _ hhead hin hage =>
    obtain ⟨age, rfl⟩ := hage
    have hs := hw.start_lt
    have hlt := m.seq_lt
    have h0 : 0 < seqSub rxseq rap.rxaStart := by simp; omega
    obtain ⟨h1, h2, -⟩ := ampduRxAddSlot_spec (hw.setAge age) rxs h0 hin
      (by rw [hm]; exact seqAdd_seqSub (hm ▸ hlt) hs)
    exact ⟨h1, h2.running, h2.xchgpend, h2.waitrx, h2.wnd⟩
  | move _ _ hadv hw1 _ ih =>
    obtain ⟨h1, h2⟩ := ih hw1
    exact ⟨h1, hadv.same.trans h2⟩
  | toss _ => exact ⟨hw, rfl, rfl, rfl, rfl⟩

/-! ## The invariant -/

structure Inv (rap : RxAmpdu) : Prop extends Window rap where
  xchg : rap.xchgpend = rap.running
  wnd_pos : rap.running = true → 0 < rap.rxaWnd
  idle : rap.running = false → ∀ i, rap.rxaMq i = []
  /-- Nothing is held while the first frame is waited for. -/
  waiting : rap.waitrx = true → ∀ i, rap.rxaMq i = []

theorem inv_init : Inv ieee80211AmpduRxInitRap where
  toWindow := Window.of_empty (by decide) (by decide) rfl rfl fun _ => rfl
  xchg := rfl
  wnd_pos h := by cases h
  idle _ _ := rfl
  waiting _ _ := rfl

/-- A session that keeps its flags keeps `Inv` if it keeps its window and holds nothing while it
    waits. -/
theorem Inv.of_same {rap rap' : RxAmpdu} (h : Inv rap) (hs : SameSession rap rap')
    (hw : Window rap') (hidle : rap.running = false → ∀ i, rap'.rxaMq i = [])
    (hwait : rap.waitrx = true → ∀ i, rap'.rxaMq i = []) : Inv rap' where
  toWindow := hw
  xchg := by rw [hs.xchgpend, hs.running]; exact h.xchg
  wnd_pos hr := by rw [hs.wnd]; exact h.wnd_pos (hs.running ▸ hr)
  idle hr := hidle (hs.running ▸ hr)
  waiting hr := hwait (hs.waitrx ▸ hr)

theorem ampduRxPurge_empty {rap : RxAmpdu} (hw : Window rap) :
    ∃ rap', ampduRxPurge rap = .ok rap' ∧ rap'.bare = rap.bare ∧ Accounted rap' ∧
      ∀ i, rap'.rxaMq i = [] := by
  obtain ⟨rap', hok, hb, hacc, hlow, hhigh⟩ := ampduRxPurge_spec hw.toAccounted
  refine ⟨rap', hok, hb, hacc, fun i => ?_⟩
  by_cases hi : i < rap.rxaWnd
  · exact hlow i hi
  · rw [hhigh i (by omega)]; exact hw.beyond i (by omega)

theorem purgeIfRunning_ok {rap : RxAmpdu} (hw : Window rap) :
    ∃ rap', purgeIfRunning rap = .ok rap' := by
  unfold purgeIfRunning
  split
  · obtain ⟨rap', hok, -⟩ := ampduRxPurge_empty hw
    exact ⟨rap', hok⟩
  · exact ⟨rap, rfl⟩

theorem bawClamp_range (x : Nat) : 0 < bawClamp x ∧ bawClamp x ≤ 64 := by
  simp only [bawClamp, IEEE80211_AGGR_BAWMAX]
  split <;> omega

theorem Inv.fresh {start wnd : Nat} {wait amsdu : Bool} (hs : start < 4096) (h0 : 0 < wnd)
    (hw : wnd ≤ 64) :
    Inv { ieee80211AmpduRxInitRap with
      rxaWnd := wnd, rxaStart := start, waitrx := wait, running := true, xchgpend := true,
      amsdu := amsdu } where
  toWindow := Window.of_empty hw hs rfl rfl fun _ => rfl
  xchg := rfl
  wnd_pos _ := h0
  idle h := by cases h
  waiting _ _ := rfl

theorem ampduRxStart_inv {rap : RxAmpdu} (h : Inv rap) (htc : Bool)
    (baparamset baseqctl : BitVec 16) :
    ∃ rap', ampduRxStart rap htc baparamset baseqctl = .ok rap' ∧ Inv rap' := by
  obtain ⟨_, hok⟩ := purgeIfRunning_ok h.toWindow
  have hwnd := bawClamp_range ((baparamset &&& 0xffc0) >>> 6).toNat
  have hstart : ((baseqctl &&& 0xfff0) >>> 4).toNat < 4096 := by
    have := (baseqctl &&& 0xfff0).isLt
    simp only [BitVec.toNat_ushiftRight, Nat.shiftRight_eq_div_pow]
    omega
  unfold ampduRxStart
  rw [hok]
  exact ⟨_, rfl, Inv.fresh hstart hwnd.1 hwnd.2⟩

theorem ieee80211AmpduRxStartExt_inv {rap : RxAmpdu} (h : Inv rap) {seq : Int}
    (baw : BitVec 32) (hseq : seq = -1 ∨ (0 ≤ seq ∧ seq < 4096)) :
    ∃ rap', ieee80211AmpduRxStartExt rap seq baw = .ok rap' ∧ Inv rap' := by
  obtain ⟨_, hok⟩ := purgeIfRunning_ok h.toWindow
  have hwnd := bawClamp_range baw.toNat
  have hstart : (if seq = -1 then 0 else (seq % 2 ^ 16).toNat) < 4096 := by
    split <;> omega
  unfold ieee80211AmpduRxStartExt
  rw [hok]
  exact ⟨_, rfl, Inv.fresh hstart hwnd.1 hwnd.2⟩

theorem ampduRxStop_inv {rap : RxAmpdu} (h : Inv rap) :
    ∃ rap', ampduRxStop rap = .ok rap' ∧ Inv rap' := by
  obtain ⟨rap1, hok, hb, hacc, he⟩ := ampduRxPurge_empty h.toWindow
  unfold ampduRxStop
  rw [hok]
  refine ⟨_, rfl, ⟨Window.of_empty hacc.wnd_le ?_ (hacc.qframes_zero fun i _ => he i)
    (hacc.qbytes_zero fun i _ => he i) he, rfl, fun h => ?_, fun _ => he, fun _ => he⟩⟩
  · show rap1.rxaStart < 4096
    rw [bare_start hb]
    exact h.start_lt
  · cases h

/-- **`ieee80211_ampdu_reorder`** on a frame its callers may pass. -/
theorem ieee80211AmpduReorder_inv {rap : RxAmpdu} (h : Inv rap) (clk : Clock) {m : Mbuf}
    (rxs : Option RxStats) (hm : m.mAmpdu = true ∧ m.mAmpduMpdu = false) :
    ∃ rap' v out, ieee80211AmpduReorder true clk rap m rxs = .ok (rap', v, out) ∧ Inv rap' := by
  unfold ieee80211AmpduReorder
  rw [if_neg (not_not.2 hm), if_neg (by decide)]
  split
  · exact ⟨_, _, _, rfl, h⟩
  split
  · exact ⟨_, _, _, rfl, h⟩
  split
  · exact ⟨_, _, _, rfl, h⟩
  rename_i hx
  split
  · exact ⟨_, _, _, rfl, h⟩
  have hx' : rap.xchgpend = true := by simpa using hx
  have hrun : rap.running = true := h.xchg ▸ hx'
  dsimp only
  split
  · rename_i hwait
    have hwin : Window { rap with waitrx := false, rxaStart := m.seq } :=
      Window.of_empty h.wnd_le m.seq_lt (h.qframes_zero fun i _ => h.waiting hwait i)
        (h.qbytes_zero fun i _ => h.waiting hwait i) (h.waiting hwait)
    obtain ⟨rap', v, out, hok, hr⟩ := reorderAgain_spec clk m rxs m.seq_lt
      IEEE80211_SEQ_RANGE _ hwin (h.wnd_pos hrun) (Nat.mod_lt _ (by decide))
    obtain ⟨hw', hs⟩ := hr.window rfl hwin
    exact ⟨rap', v, out, hok, ⟨hw', by rw [hs.xchgpend, hs.running]; exact h.xchg,
      fun _ => by rw [hs.wnd]; exact h.wnd_pos hrun,
      fun hr' => absurd (hs.running ▸ hr') (by simp [hrun]),
      fun hr' => absurd (hs.waitrx ▸ hr') (by simp)⟩⟩
  · rename_i hwait
    obtain ⟨rap', v, out, hok, hr⟩ := reorderAgain_spec clk m rxs m.seq_lt
      IEEE80211_SEQ_RANGE _ h.toWindow (h.wnd_pos hrun) (Nat.mod_lt _ (by decide))
    obtain ⟨hw', hs⟩ := hr.window rfl h.toWindow
    exact ⟨rap', v, out, hok, h.of_same hs hw' (fun hr' => absurd hr' (by simp [hrun]))
      fun hr' => absurd hr' hwait⟩

theorem Advanced.idle {rap rap' : RxAmpdu} {i : Nat} (hadv : Advanced rap rap' i)
    (he : ∀ j, rap.rxaMq j = []) (j : Nat) : rap'.rxaMq j = [] := by
  rw [hadv.mq, shift]
  split
  · exact he _
  · rfl

/-- **`ieee80211_recv_bar`**: the window start it leaves, and the slots it empties. -/
theorem ieee80211RecvBar_spec {rap : RxAmpdu} (h : Inv rap) (ena : Bool) (iSeq : BitVec 16) :
    ∃ rap' out, ieee80211RecvBar ena rap iSeq = .ok (rap', out) ∧ Inv rap' ∧
      ((rap' = rap ∧ out = []) ∨
        ∃ rap1 i, Advanced rap rap1 i ∧ out = dispatched rap.rxaMq 0 i ∧
          (rap' = rap1 ∨ (rap.rxaWnd ≤ seqSub (iSeq >>> 4).toNat rap.rxaStart ∧
            seqSub (iSeq >>> 4).toNat rap.rxaStart < 2048 ∧
            rap' = { rap1 with rxaStart := (iSeq >>> 4).toNat }))) := by
  have hseq : (iSeq >>> 4).toNat < 4096 := by
    have := iSeq.isLt
    simp only [BitVec.toNat_ushiftRight, Nat.shiftRight_eq_div_pow]
    omega
  unfold ieee80211RecvBar
  generalize (iSeq >>> 4).toNat = rxseq at hseq ⊢
  split
  · exact ⟨_, _, rfl, h, .inl ⟨rfl, rfl⟩⟩
  split
  · exact ⟨_, _, rfl, h, .inl ⟨rfl, rfl⟩⟩
  rename_i hx
  have hx' : rap.xchgpend = true := by simpa using hx
  have hrun : rap.running = true := h.xchg ▸ hx'
  have hpos := h.wnd_pos hrun
  have hslt := h.start_lt
  dsimp only
  by_cases heq : rxseq = rap.rxaStart
  · rw [if_pos heq]
    exact ⟨_, _, rfl, h, .inl ⟨rfl, rfl⟩⟩
  rw [if_neg heq]
  by_cases hrange : seqSub rxseq rap.rxaStart < IEEE80211_SEQ_BA_RANGE
  · rw [if_pos hrange]
    have hlt : seqSub rxseq rap.rxaStart < 2048 := hrange
    have hbef : seqBaBefore rap.rxaStart rxseq := by
      simp only [seqBaBefore, seqSub] at hlt ⊢
      omega
    obtain ⟨rap1, i, hok, hadv, hw1, hstop⟩ := ampduRxFlushUpto_spec h.toWindow hpos hbef
    have hidle : rap.running = false → ∀ j, rap1.rxaMq j = [] := fun hr => absurd hr (by simp [hrun])
    have hwait : rap.waitrx = true → ∀ j, rap1.rxaMq j = [] := fun hr =>
      hadv.idle (h.waiting hr)
    rw [hok]
    by_cases hpast : rap.rxaWnd ≤ seqSub rxseq rap.rxaStart
    · simp only [if_pos hpast]
      -- every slot of the window comes before the new start
      have hiw : i = rap.rxaWnd := by
        by_contra hne
        have hle := hadv.le_wnd
        have hnb := hstop (by omega)
        simp only [seqBaBefore, seqSub, seqAdd] at hnb hlt hpast
        omega
      have he : ∀ t, rap1.rxaMq t = [] := fun t => by
        rw [hadv.mq, shift, if_neg (by omega)]
      have hwin : Window { rap1 with rxaStart := rxseq } :=
        Window.of_empty hw1.wnd_le hseq (hw1.qframes_zero fun t _ => he t)
          (hw1.qbytes_zero fun t _ => he t) he
      exact ⟨_, _, rfl, h.of_same ⟨hadv.same.running, hadv.same.xchgpend, hadv.same.waitrx,
        hadv.same.wnd⟩ hwin (fun _ => he) (fun _ => he),
        .inr ⟨rap1, i, hadv, rfl, .inr ⟨hpast, hlt, rfl⟩⟩⟩
    · simp only [if_neg hpast]
      exact ⟨_, _, rfl, h.of_same hadv.same hw1 hidle hwait, .inr ⟨rap1, i, hadv, rfl, .inl rfl⟩⟩
  · rw [if_neg hrange]
    exact ⟨_, _, rfl, h, .inl ⟨rfl, rfl⟩⟩

theorem ieee80211HtNodeAge_inv {rap : RxAmpdu} (h : Inv rap) (clk : Clock) :
    Inv (ieee80211HtNodeAge clk rap).1 := by
  unfold ieee80211HtNodeAge
  split
  · exact h
  split
  · exact h
  split
  · obtain ⟨rap', hok, hb, hw', he⟩ := ampduRxFlush_spec h.toWindow
    rw [hok]
    exact h.of_same (.of_bare hb) hw' (fun _ => he) fun _ => he
  · exact h

/-- **Every call keeps the invariant and trips no `KASSERT`.** -/
theorem Op.session_inv {rap : RxAmpdu} (h : Inv rap) (op : Op) (hwf : op.wellFormed)
    (hin : op.fromInput) : ∃ r, op.session true rap = .ok r ∧ Inv r.1 := by
  cases op with
  | rxStart tid htc p s =>
    obtain ⟨rap', hok, hi⟩ := ampduRxStart_inv h htc p s
    exact ⟨_, by rw [Op.session, hok]; rfl, hi⟩
  | rxStartExt tid seq baw =>
    obtain ⟨rap', hok, hi⟩ := ieee80211AmpduRxStartExt_inv h baw hwf
    exact ⟨_, by rw [Op.session, hok]; rfl, hi⟩
  | reorder clk m rxs =>
    obtain ⟨rap', v, out, hok, hi⟩ := ieee80211AmpduReorder_inv h clk rxs hin
    exact ⟨_, by rw [Op.session, hok]; rfl, hi⟩
  | recvBar ena c s =>
    obtain ⟨rap', out, hok, hi, -⟩ := ieee80211RecvBar_spec h ena s
    exact ⟨_, by rw [Op.session, hok]; rfl, hi⟩
  | nodeAge tid clk => exact ⟨_, rfl, ieee80211HtNodeAge_inv h clk⟩
  | rxStop tid =>
    obtain ⟨rap', hok, hi⟩ := ampduRxStop_inv h
    exact ⟨_, by rw [Op.session, hok]; rfl, hi⟩

/-! ## Runs -/

def Step (ni : Node) (op : Op) (ni' : Node) : Prop :=
  op.wellFormed ∧ ∃ v out, op.apply ni = .ok (ni', v, out)

/-- Nodes after some run of calls from `ieee80211_ht_node_init`. -/
abbrev NodeReachable : Node → Prop := Reachable (· = ieee80211HtNodeInit) Step

/-- A frame its callers do not pass stops `ieee80211_ampdu_reorder` at its first `KASSERT`. -/
theorem Op.session_notInput {rap : RxAmpdu} {niHt : Bool} {op : Op} (h : ¬ op.fromInput) :
    op.session niHt rap = .error .notAmpdu := by
  cases op with
  | reorder clk m rxs =>
    have h' : ¬ (m.mAmpdu = true ∧ m.mAmpduMpdu = false) := h
    rw [Op.session, ieee80211AmpduReorder, if_pos h']
    rfl
  | _ => exact absurd trivial h

theorem Op.apply_ok {ni : Node} {op : Op} {r : RxAmpdu × Option Verdict × List Mbuf}
    (h : op.session ni.niHt (ni.niRxAmpdu op.tid) = .ok r) :
    op.apply ni = .ok ({ ni with niRxAmpdu := Function.update ni.niRxAmpdu op.tid r.1 }, r.2) := by
  rw [Op.apply, h]; rfl

structure NodeInv (ni : Node) : Prop where
  ht : ni.niHt = true
  sessions : ∀ tid, Inv (ni.niRxAmpdu tid)

theorem step_inv {ni ni' : Node} {op : Op} (h : NodeInv ni) (hs : Step ni op ni') :
    NodeInv ni' := by
  obtain ⟨hwf, v, out, hok⟩ := hs
  by_cases hin : op.fromInput
  · obtain ⟨r, hr, hi⟩ := op.session_inv (h.sessions op.tid) hwf hin
    rw [Op.apply_ok (by rw [h.ht]; exact hr)] at hok
    simp only [Except.ok.injEq, Prod.mk.injEq] at hok
    obtain ⟨rfl, -⟩ := hok
    refine ⟨h.ht, fun tid => ?_⟩
    show Inv (Function.update ni.niRxAmpdu op.tid r.1 tid)
    by_cases ht : tid = op.tid
    · rw [ht, Function.update_self]; exact hi
    · rw [Function.update_of_ne ht]; exact h.sessions tid
  · rw [Op.apply, Op.session_notInput hin] at hok
    cases hok

/-- **The invariant of every reachable node.** -/
theorem reachable_inv {ni : Node} (hr : NodeReachable ni) : NodeInv ni :=
  hr.invariant (fun _ h => h ▸ ⟨rfl, fun _ => inv_init⟩) fun _ _ _ => step_inv

def runOps : List Op → Node → Except Fault Node
  | [], ni => .ok ni
  | op :: ops, ni =>
    match op.apply ni with
    | .error f => .error f
    | .ok (ni, _) => runOps ops ni

theorem runOps_reachable : ∀ (ops : List Op) {ni ni' : Node}, (∀ op ∈ ops, op.wellFormed) →
    NodeReachable ni → runOps ops ni = .ok ni' → NodeReachable ni'
  | [], _, _, _, hr, h => by
    simp only [runOps, Except.ok.injEq] at h
    exact h ▸ hr
  | op :: ops, ni, ni', hwf, hr, h => by
    unfold runOps at h
    split at h
    · cases h
    · rename_i ni1 x hok
      exact runOps_reachable ops (fun o ho => hwf o (List.mem_cons_of_mem _ ho))
        (.next hr ⟨hwf op (List.mem_cons_self ..), x.1, x.2, hok⟩) h

/-! ## Representation -/

/-- What a session represents, with its counters. -/
structure Represents (rap : RxAmpdu) : Prop where
  slot0 : rap.rxaMq 0 = []
  beyond : ∀ i, rap.rxaWnd ≤ i → rap.rxaMq i = []
  seqs : ∀ i, ∀ m ∈ rap.rxaMq i, m.seq = (rap.rxaStart + i) % 4096
  qframes : rap.rxaQframes = ∑ i ∈ Finset.range rap.rxaWnd, ((rap.rxaMq i).length : Int)
  qbytes : rap.rxaQbytes =
    wrap32 (∑ i ∈ Finset.range rap.rxaWnd, ((rap.rxaMq i).map Mbuf.pktLen).sum)
  /-- For frames no longer than an 802.11 length field allows, `rxa_qbytes` does not wrap. -/
  qbytes_exact : (∀ i, ∀ m ∈ rap.rxaMq i, 0 ≤ m.pktLen ∧ m.pktLen < 2 ^ 16) →
    rap.rxaQbytes = ∑ i ∈ Finset.range rap.rxaWnd, ((rap.rxaMq i).map Mbuf.pktLen).sum

theorem Window.represents {rap : RxAmpdu} (h : Window rap) : Represents rap where
  slot0 := h.slot0
  beyond := h.beyond
  seqs := h.seqs
  qframes := by
    rw [h.qframes_eq, count, total]
    exact Finset.sum_congr rfl fun i _ => weight_one _
  qbytes := h.qbytes
  qbytes_exact hl := by
    have hw : (rap.rxaWnd : Int) ≤ 64 := by exact_mod_cast h.wnd_le
    have hc := count_le (n := rap.rxaWnd) fun i _ => h.len_le i
    have hb : (rap.rxaWnd : Int) * (mqMaxlen : Nat) ≤ 64 * 256 :=
      Int.mul_le_mul hw (le_refl _) (by decide) (by decide)
    have h0 : 0 ≤ total Mbuf.pktLen rap.rxaMq rap.rxaWnd :=
      total_nonneg fun i _ m hm => (hl i m hm).1
    have h1 : total Mbuf.pktLen rap.rxaMq rap.rxaWnd ≤ count rap.rxaMq rap.rxaWnd * (2 ^ 16 - 1) :=
      total_le fun i _ m hm => by have := (hl i m hm).2; omega
    rw [h.qbytes]
    exact wrap32_of_range h0 (by omega)

/-- **In every reachable node, a running session represents its window and its counters, and no
    call trips a `KASSERT`.** -/
theorem running_represents {ni : Node} (hr : NodeReachable ni) :
    (∀ tid, (ni.niRxAmpdu tid).running = true → Represents (ni.niRxAmpdu tid)) ∧
      ∀ op : Op, op.wellFormed → op.fromInput → ∃ r, op.apply ni = .ok r := by
  have hinv := reachable_inv hr
  refine ⟨fun tid _ => (hinv.sessions tid).represents, fun op hwf hin => ?_⟩
  obtain ⟨r, hok, -⟩ := op.session_inv (hinv.sessions op.tid) hwf hin
  exact ⟨_, Op.apply_ok (by rw [hinv.ht]; exact hok)⟩

/-- A QoS data subframe of TID 0 with sequence number `seq`. -/
def qosMbuf (seq : BitVec 12) (rxs : Option RxStats) : Mbuf :=
  { iFc0 := IEEE80211_FC0_QOSDATA, iAddr1 := 0, qos0 := 0, iSeq := seq ++ 0#4, pktLen := 1500,
    mAmpdu := true, mAmpduMpdu := false, rxs := rxs }

/-- What can be computed after a list of calls holds of a reachable node. -/
theorem runOps_observe {β : Type} (ops : List Op) (f : Node → β) {x : β}
    (hwf : ∀ op ∈ ops, op.wellFormed)
    (h : (runOps ops ieee80211HtNodeInit).toOption.map f = some x) :
    ∃ ni, NodeReachable ni ∧ f ni = x := by
  cases hrun : runOps ops ieee80211HtNodeInit with
  | error e => rw [hrun] at h; cases h
  | ok ni =>
    rw [hrun] at h
    exact ⟨ni, runOps_reachable ops hwf (.start rfl) hrun, Option.some.inj h⟩

/-- A session of window 4 from 4094 that holds frame 0, across the wrap. -/
theorem running_represents_across_wrap :
    ∃ ni, NodeReachable ni ∧ (ni.niRxAmpdu 0).rxaMq 2 = [qosMbuf 0 none] ∧
      (ni.niRxAmpdu 0).running = true ∧ Represents (ni.niRxAmpdu 0) := by
  obtain ⟨ni, hr, hx⟩ := runOps_observe
    [.rxStartExt 0 4094 4, .reorder ⟨0, 500⟩ (qosMbuf 0 none) none]
    (fun ni => ((ni.niRxAmpdu 0).rxaMq 2, (ni.niRxAmpdu 0).running))
    (x := ([qosMbuf 0 none], true)) (by simp [Op.wellFormed]) (by decide)
  obtain ⟨hq, hrun⟩ := Prod.mk.inj hx
  exact ⟨ni, hr, hq, hrun, (running_represents hr).1 0 hrun⟩

end Net80211
