import Wifi.Net80211.AmpduRxSession

/-!
# Order of delivery of a receive block-ack session

* `Delivers` — frames passed up in order of their distance from the old window start, all of it
  before the new one.
* `Reordered.delivers` — every path of `ieee80211_ampdu_reorder` delivers so, as long as an aging
  flush does not push out frames at or past the one that arrives (`overtakes`).
* `delivery_in_order` — the calls on a running session of a reachable node; a frame that has been
  passed up is discarded when it comes again.
-/

namespace Net80211

open Slots Runs

/-- Frames held in one slot: subframes of one A-MSDU. -/
def HeldTogether (rap : RxAmpdu) (a b : Mbuf) : Prop :=
  ∃ i, a ∈ (rap.rxaMq i).map ampduDispatch ∧ b ∈ (rap.rxaMq i).map ampduDispatch

/-- `a` comes before `b`, counted from `s`, unless both were held in one slot. -/
def Precedes (rap : RxAmpdu) (s : Nat) (a b : Mbuf) : Prop :=
  seqSub a.seq s < seqSub b.seq s ∨ (seqSub a.seq s = seqSub b.seq s ∧ HeldTogether rap a b)

/-- The frames `ms` are passed up in order from the window start of `rap`, and the window start
    moves by `d`, past all of them. -/
structure Delivers (rap rap' : RxAmpdu) (d : Nat) (ms : List Mbuf) : Prop where
  start : rap'.rxaStart = seqAdd rap.rxaStart d
  before : ∀ f ∈ ms, seqSub f.seq rap.rxaStart < d
  order : ms.Pairwise (Precedes rap rap.rxaStart)
  /-- With one frame a slot the order is strict. -/
  strict : (∀ i, (rap.rxaMq i).length ≤ 1) →
    ms.Pairwise fun a b => seqSub a.seq rap.rxaStart < seqSub b.seq rap.rxaStart

variable {rap rap' : RxAmpdu}

@[simp] theorem ampduDispatch_seq (m : Mbuf) : (ampduDispatch m).seq = m.seq := rfl

theorem Window.off_slot (hw : Window rap) {i : Nat} {f : Mbuf}
    (hf : f ∈ (rap.rxaMq i).map ampduDispatch) :
    seqSub f.seq rap.rxaStart = i ∧ i < rap.rxaWnd := by
  obtain ⟨x, hx, rfl⟩ := List.mem_map.1 hf
  have hi := hw.held_lt hx
  have hs := hw.start_lt
  have hwnd : rap.rxaWnd ≤ 64 := hw.wnd_le
  rw [ampduDispatch_seq, hw.seqs i x hx]
  simp only [seqSub, seqAdd]
  omega

theorem mem_dispatched {mq : Nat → List Mbuf} {a b : Nat} {f : Mbuf} :
    f ∈ dispatched mq a b ↔ ∃ i, a ≤ i ∧ i < b ∧ f ∈ (mq i).map ampduDispatch := by
  simp only [dispatched, List.mem_map, mem_items]
  constructor
  · rintro ⟨x, ⟨i, h1, h2, hx⟩, rfl⟩
    exact ⟨i, h1, h2, x, hx, rfl⟩
  · rintro ⟨i, h1, h2, x, hx, rfl⟩
    exact ⟨x, ⟨i, h1, h2, hx⟩, rfl⟩

theorem dispatched_off (hw : Window rap) {a b : Nat} {f : Mbuf}
    (hf : f ∈ dispatched rap.rxaMq a b) :
    a ≤ seqSub f.seq rap.rxaStart ∧ seqSub f.seq rap.rxaStart < b := by
  obtain ⟨i, h1, h2, h3⟩ := mem_dispatched.1 hf
  rw [(hw.off_slot h3).1]
  exact ⟨h1, h2⟩

theorem dispatched_order (hw : Window rap) {a b : Nat} (hab : a ≤ b) :
    (dispatched rap.rxaMq a b).Pairwise (Precedes rap rap.rxaStart) ∧
      ((∀ i, (rap.rxaMq i).length ≤ 1) → (dispatched rap.rxaMq a b).Pairwise
        fun a b => seqSub a.seq rap.rxaStart < seqSub b.seq rap.rxaStart) := by
  have hoff : ∀ i, ∀ x ∈ rap.rxaMq i, seqSub (ampduDispatch x).seq rap.rxaStart = i :=
    fun i x hx => (hw.off_slot (List.mem_map_of_mem hx)).1
  have hlt : ∀ i j, i < j → ∀ x ∈ rap.rxaMq i, ∀ y ∈ rap.rxaMq j,
      seqSub (ampduDispatch x).seq rap.rxaStart < seqSub (ampduDispatch y).seq rap.rxaStart := by
    intro i j hij x hx y hy
    rw [hoff i x hx, hoff j y hy]
    exact hij
  unfold dispatched
  rw [List.pairwise_map, List.pairwise_map]
  constructor
  · refine pairwise_items (b - a) a (by omega) (fun i _ _ => ?_)
      fun i j _ hij _ x hx y hy => .inl (hlt i j hij x hx y hy)
    refine List.pairwise_of_forall_mem_list fun x hx y hy => .inr ⟨?_, i, ?_, ?_⟩
    · rw [hoff i x hx, hoff i y hy]
    · exact List.mem_map_of_mem hx
    · exact List.mem_map_of_mem hy
  · intro hone
    refine pairwise_items (b - a) a (by omega) (fun i _ _ => ?_)
      fun i j _ hij _ x hx y hy => hlt i j hij x hx y hy
    match hq : rap.rxaMq i with
    | [] => exact List.Pairwise.nil
    | [_] => exact List.pairwise_singleton _ _
    | _ :: _ :: _ =>
      have := hone i
      rw [hq] at this
      simp at this

theorem Delivers.nil (h : rap'.rxaStart = rap.rxaStart) (hs : rap.rxaStart < 4096) :
    Delivers rap rap' 0 [] where
  start := by rw [h]; simp; omega
  before f hf := by cases hf
  order := List.Pairwise.nil
  strict _ := List.Pairwise.nil

/-- A list of frames followed by one that is farther from the window start than all of them. -/
theorem Delivers.append_one {ms : List Mbuf} {m : Mbuf}
    (hs : rap'.rxaStart = seqAdd rap.rxaStart (seqSub m.seq rap.rxaStart + 1))
    (hbef : ∀ f ∈ ms, seqSub f.seq rap.rxaStart < seqSub m.seq rap.rxaStart)
    (hord : ms.Pairwise (Precedes rap rap.rxaStart))
    (hstr : (∀ i, (rap.rxaMq i).length ≤ 1) →
      ms.Pairwise fun a b => seqSub a.seq rap.rxaStart < seqSub b.seq rap.rxaStart) :
    Delivers rap rap' (seqSub m.seq rap.rxaStart + 1) (ms ++ [m]) where
  start := hs
  before f hf := by
    rcases List.mem_append.1 hf with hf | hf
    · have := hbef f hf; omega
    · rw [List.mem_singleton.1 hf]; exact Nat.lt_succ_self _
  order := by
    rw [List.pairwise_append]
    refine ⟨hord, List.pairwise_singleton _ _, fun a ha b hb => ?_⟩
    rw [List.mem_singleton.1 hb]
    exact .inl (hbef a ha)
  strict hone := by
    rw [List.pairwise_append]
    refine ⟨hstr hone, List.pairwise_singleton _ _, fun a ha b hb => ?_⟩
    rw [List.mem_singleton.1 hb]
    exact hbef a ha

theorem Delivers.move {rap1 : RxAmpdu} {i d : Nat} {ms : List Mbuf} (hw : Window rap)
    (hadv : Advanced rap rap1 i) (h : Delivers rap1 rap' d ms) (hd : i + d ≤ 4096) :
    Delivers rap rap' (i + d) (dispatched rap.rxaMq 0 i ++ ms) := by
  have hs := hw.start_lt
  have hshift : ∀ f ∈ ms, seqSub f.seq rap.rxaStart = i + seqSub f.seq rap1.rxaStart := by
    intro f hf
    have hb := h.before f hf
    have hlt := f.seq_lt
    rw [hadv.start] at hb ⊢
    simp only [seqSub, seqAdd] at hb ⊢
    omega
  have hheld : ∀ a b, HeldTogether rap1 a b → HeldTogether rap a b := by
    rintro a b ⟨t, ha, hb⟩
    rw [hadv.mq, shift] at ha hb
    split at ha
    · rename_i ht
      rw [if_pos ht] at hb
      exact ⟨t + i, ha, hb⟩
    · cases ha
  have hcross : ∀ a ∈ dispatched rap.rxaMq 0 i, ∀ b ∈ ms,
      seqSub a.seq rap.rxaStart < seqSub b.seq rap.rxaStart := by
    intro a ha b hb
    have := (dispatched_off hw ha).2
    rw [hshift b hb]
    omega
  obtain ⟨ho, hst⟩ := dispatched_order hw (Nat.zero_le i)
  refine ⟨?_, fun f hf => ?_, ?_, fun hone => ?_⟩
  · rw [h.start, hadv.start]
    simp only [seqAdd]
    omega
  · rcases List.mem_append.1 hf with hf | hf
    · have := (dispatched_off hw hf).2; omega
    · rw [hshift f hf]
      have := h.before f hf
      omega
  · rw [List.pairwise_append]
    refine ⟨ho, h.order.imp_of_mem fun {a b} ha hb hab => ?_, fun a ha b hb => .inl (hcross a ha b hb)⟩
    unfold Precedes
    rw [hshift a ha, hshift b hb]
    rcases hab with hab | ⟨hab, hh⟩
    · exact .inl (by omega)
    · exact .inr ⟨by omega, hheld a b hh⟩
  · have hone1 : ∀ t, (rap1.rxaMq t).length ≤ 1 := by
      intro t
      rw [hadv.mq, shift]
      split
      · exact hone _
      · exact Nat.zero_le _
    rw [List.pairwise_append]
    refine ⟨hst hone, (h.strict hone1).imp_of_mem fun {a b} ha hb hab => ?_, hcross⟩
    rw [hshift a ha, hshift b hb]
    omega

/-! ## The paths of `ieee80211_ampdu_reorder` -/

/-- The frames a call passes up: those it dispatches, and the frame it returns to its caller. -/
def passedUp (m : Mbuf) (v : Verdict) (out : List Mbuf) : List Mbuf :=
  if v = .process then out ++ [m] else out

/-- Frames held at or past offset `off` of the window. -/
def HeldFrom (rap : RxAmpdu) (off : Nat) : Prop := ∃ i, off ≤ i ∧ rap.rxaMq i ≠ []

/-- How far the window moves: past a run, or just past the frame. -/
structure MoveBound (rap : RxAmpdu) (off d : Nat) : Prop where
  le : d ≤ 64 ∨ d ≤ off + 1
  past : off ≠ 0 ∨ rap.rxaQframes = 0 → d ≤ off + 1

variable {clk : Clock} {m : Mbuf} {rxs : Option RxStats} {v : Verdict} {out : List Mbuf}

theorem directStart_start (hamsdu : ieee80211CheckRxseqAmsdu rxs = false) (rap : RxAmpdu)
    (rxseq : Nat) (amsduEnd : Bool) :
    (directStart rap rxseq (ieee80211CheckRxseqAmsdu rxs) amsduEnd).rxaStart = seqInc rxseq := by
  simp [directStart, hamsdu]

/-- **Every path delivers in order**, unless an aging flush pushes out frames at or past the one
    that arrives. -/
theorem Reordered.delivers {rxseq : Nat} (hm : m.seq = rxseq)
    (hamsdu : ieee80211CheckRxseqAmsdu rxs = false)
    (hr : Reordered clk rxseq m rxs rap rap' v out) (hw : Window rap)
    (hage : rap.aged clk = true → 0 < seqSub rxseq rap.rxaStart →
      seqSub rxseq rap.rxaStart < rap.rxaWnd → ¬ HeldFrom rap (seqSub rxseq rap.rxaStart)) :
    ∃ d, Delivers rap rap' d (passedUp m v out) ∧ MoveBound rap (seqSub rxseq rap.rxaStart) d ∧
      (seqSub rxseq rap.rxaStart ≠ 0 →
        ∀ f ∈ passedUp m v out, 0 < seqSub f.seq rap.rxaStart) ∧
      (2048 ≤ seqSub rxseq rap.rxaStart → passedUp m v out = []) := by
  induction hr with
  | @run rap rap' i hhead hq hadv hw' =>
    have hs := hw.start_lt
    have hiw := hadv.le_wnd
    have hwnd : rap.rxaWnd ≤ 64 := hw.wnd_le
    have hoff : seqSub rxseq rap.rxaStart = 0 := by rw [hhead]; simp
    have hm0 : seqSub m.seq rap.rxaStart = 0 := by rw [hm]; exact hoff
    have hlater : ∀ f ∈ dispatched rap.rxaMq 1 i,
        seqSub m.seq rap.rxaStart < seqSub f.seq rap.rxaStart := by
      intro f hf
      have := (dispatched_off hw hf).1
      rw [hm0]; omega
    obtain ⟨ho, hst⟩ := dispatched_order hw hadv.pos
    refine ⟨i, ⟨hadv.start, fun f hf => ?_, ?_, fun hone => ?_⟩,
      ⟨.inl (by omega), fun h => ?_⟩, fun h => absurd hoff h, fun h => by omega⟩
    · rcases List.mem_cons.1 hf with rfl | hf
      · rw [ampduDispatch_seq, hm0]; exact hadv.pos
      · exact (dispatched_off hw hf).2
    · exact List.pairwise_cons.2 ⟨fun f hf => .inl (hlater f hf), ho⟩
    · exact List.pairwise_cons.2 ⟨fun f hf => hlater f hf, hst hone⟩
    · rcases h with h | h
      · exact absurd hoff h
      · exact absurd h hq
  | @direct rap hhead hq =>
    have hoff : seqSub rxseq rap.rxaStart = 0 := by rw [hhead]; simp
    refine ⟨seqSub m.seq rap.rxaStart + 1, ?_, ⟨.inl ?_, fun _ => ?_⟩, fun h => absurd hoff h,
      fun h => by omega⟩
    · show Delivers _ _ _ ([] ++ [m])
      refine Delivers.append_one ?_ (fun f hf => by cases hf) List.Pairwise.nil
        fun _ => List.Pairwise.nil
      rw [directStart_start hamsdu, hm, hoff, hhead]
      rfl
    · rw [hm, hoff]; decide
    · rw [hm]
  | @aged rap rap1 hhead hin hq hold hb hw' he =>
    have hs := hw.start_lt
    have hlt := m.seq_lt
    have hpos : 0 < seqSub rxseq rap.rxaStart := by rw [← hm] at hhead ⊢; simp; omega
    have hnone := hage hold hpos hin
    -- the slots at and past the frame are empty
    have hbef : ∀ f ∈ dispatched rap.rxaMq 0 rap.rxaWnd,
        0 < seqSub f.seq rap.rxaStart ∧
          seqSub f.seq rap.rxaStart < seqSub m.seq rap.rxaStart := by
      intro f hf
      obtain ⟨i, -, -, hfi⟩ := mem_dispatched.1 hf
      obtain ⟨x, hx, -⟩ := List.mem_map.1 hfi
      rw [(hw.off_slot hfi).1, hm]
      refine ⟨hw.held_pos hx, ?_⟩
      by_contra hge
      exact hnone ⟨i, by omega, List.ne_nil_of_mem hx⟩
    obtain ⟨ho, hst⟩ := dispatched_order hw (Nat.zero_le rap.rxaWnd)
    have hwnd : rap.rxaWnd ≤ 64 := hw.wnd_le
    refine ⟨seqSub m.seq rap.rxaStart + 1, ?_, ⟨.inr (by rw [hm]), fun _ => by rw [hm]⟩,
      fun _ f hf => ?_, fun h => by omega⟩
    · refine Delivers.append_one ?_ (fun f hf => (hbef f hf).2) ho hst
      rw [directStart_start hamsdu, ← hm]
      simp only [seqInc, seqAdd, seqSub]
      omega
    · rcases List.mem_append.1 hf with hf | hf
      · exact (hbef f hf).1
      · rw [List.mem_singleton.1 hf, hm]; exact hpos
  | @store rap rap1 hhead hin hex =>
    obtain ⟨age, rfl⟩ := hex
    have hs := hw.start_lt
    have hwnd : rap.rxaWnd ≤ 64 := hw.wnd_le
    refine ⟨0, Delivers.nil ?_ hs, ⟨.inl (by omega), fun _ => by omega⟩,
      fun _ f hf => (by cases hf), fun h => by omega⟩
    unfold ampduRxAddSlot
    dsimp only
    split
    · split <;> rfl
    · rfl
  | @move rap rap1 rap' i v out hpast hlt hadv hw1 hr ih =>
    have hs := hw.start_lt
    have hwnd : rap.rxaWnd ≤ 64 := hw.wnd_le
    have hi := hadv.pos
    have hiw := hadv.le_wnd
    have hoff : seqSub rxseq rap1.rxaStart = seqSub rxseq rap.rxaStart - i := by
      have := m.seq_lt
      rw [hadv.start]
      rw [hm] at this
      simp only [seqSub, seqAdd] at hpast hlt ⊢
      omega
    have hnone : ¬ HeldFrom rap1 (seqSub rxseq rap1.rxaStart) := by
      rintro ⟨t, ht, hne⟩
      rw [hadv.mq, shift] at hne
      split at hne
      · omega
      · exact hne rfl
    obtain ⟨d, hd, hb, hpos, -⟩ := ih hw1 fun _ _ _ => hnone
    have hd1 : d ≤ seqSub rxseq rap1.rxaStart + 1 := by
      refine hb.past ?_
      by_cases h0 : seqSub rxseq rap1.rxaStart = 0
      · refine .inr (hw1.qframes_zero fun t _ => ?_)
        rw [hadv.mq, shift, if_neg (by omega)]
      · exact .inl h0
    have e : passedUp m v (dispatched rap.rxaMq 0 i ++ out) =
        dispatched rap.rxaMq 0 i ++ passedUp m v out := by
      unfold passedUp
      split
      · rw [List.append_assoc]
      · rfl
    rw [e]
    refine ⟨i + d, hd.move hw hadv (by omega), ⟨.inr (by omega), fun _ => by omega⟩,
      fun _ f hf => ?_, fun h => by omega⟩
    rcases List.mem_append.1 hf with hf | hf
    · obtain ⟨j, -, -, hfj⟩ := mem_dispatched.1 hf
      obtain ⟨x, hx, -⟩ := List.mem_map.1 hfj
      rw [(hw.off_slot hfj).1]
      exact hw.held_pos hx
    · have hb := hd.before f hf
      have hlt' := f.seq_lt
      rw [hadv.start] at hb
      simp only [seqSub, seqAdd] at hb hoff hd1 hlt hpast ⊢
      omega
  | @toss rap h =>
    exact ⟨0, Delivers.nil rfl hw.start_lt, ⟨.inl (by omega), fun _ => by omega⟩,
      fun _ f hf => (by cases hf), fun _ => rfl⟩

/-! ## Calls on a node -/

/-- A BAR, or a unicast QoS data frame that is not part of an A-MSDU. -/
def Op.ordinary : Op → Prop
  | .reorder _ m rxs =>
    ieee80211CheckRxseqAmsdu rxs = false ∧ m.iFc0 = IEEE80211_FC0_QOSDATA ∧ m.isMulticast = false
  | .recvBar .. => True
  | _ => False

/-- An aging flush would push out a frame at or past the one that arrives. -/
def Op.overtakes (rap : RxAmpdu) : Op → Prop
  | .reorder clk m _ => m.frag = 0 ∧ rap.aged clk = true ∧ 0 < seqSub m.seq rap.rxaStart ∧
      seqSub m.seq rap.rxaStart < rap.rxaWnd ∧ HeldFrom rap (seqSub m.seq rap.rxaStart)
  | _ => False

def Op.passedUp (v : Option Verdict) (out : List Mbuf) : Op → List Mbuf
  | .reorder _ m _ => if v = some .process then out ++ [m] else out
  | _ => out

/-- A frame the reorder code takes for the session of `tid`. -/
structure OfSession (tid : Fin WME_NUM_TID) (m : Mbuf) : Prop where
  tid_eq : m.tid = tid
  fromInput : m.mAmpdu = true ∧ m.mAmpduMpdu = false
  qos : m.iFc0 = IEEE80211_FC0_QOSDATA
  unicast : m.isMulticast = false
  unfragmented : m.frag = 0

theorem Delivers.before_start {d : Nat} {ms : List Mbuf} (h : Delivers rap rap' d ms)
    (hs : rap.rxaStart < 4096)
    (hd : ∀ f ∈ ms, d ≤ seqSub f.seq rap.rxaStart + 2047) {f : Mbuf} (hf : f ∈ ms) :
    seqBaBefore f.seq rap'.rxaStart := by
  have h1 := h.before f hf
  have h2 := hd f hf
  have h3 := f.seq_lt
  rw [h.start]
  simp only [seqBaBefore, seqSub, seqAdd] at h1 h2 ⊢
  omega

/-- What one call on a running session passes up, and where it leaves the window. -/
structure InOrder (rap rap' : RxAmpdu) (ms : List Mbuf) : Prop where
  order : ms.Pairwise (Precedes rap rap.rxaStart)
  strict : (∀ i, (rap.rxaMq i).length ≤ 1) →
    ms.Pairwise fun a b => seqSub a.seq rap.rxaStart < seqSub b.seq rap.rxaStart
  before : ∀ f ∈ ms, seqBaBefore f.seq rap'.rxaStart

theorem InOrder.of_delivers {d : Nat} {ms : List Mbuf} (h : Delivers rap rap' d ms)
    (hs : rap.rxaStart < 4096) (hd : ∀ f ∈ ms, d ≤ seqSub f.seq rap.rxaStart + 2047) :
    InOrder rap rap' ms :=
  ⟨h.order, h.strict, fun _ hf => h.before_start hs hd hf⟩

theorem InOrder.nil : InOrder rap rap' [] :=
  ⟨List.Pairwise.nil, fun _ => List.Pairwise.nil, fun _ hf => by cases hf⟩

theorem InOrder.single {m : Mbuf} (h : seqBaBefore m.seq rap'.rxaStart) : InOrder rap rap' [m] :=
  ⟨List.pairwise_singleton _ _, fun _ => List.pairwise_singleton _ _,
    fun _ hf => by rw [List.mem_singleton.1 hf]; exact h⟩

theorem Reordered.inOrder {rxseq : Nat} (hm : m.seq = rxseq)
    (hamsdu : ieee80211CheckRxseqAmsdu rxs = false)
    (hr : Reordered clk rxseq m rxs rap rap' v out) (hw : Window rap)
    (hage : rap.aged clk = true → 0 < seqSub rxseq rap.rxaStart →
      seqSub rxseq rap.rxaStart < rap.rxaWnd → ¬ HeldFrom rap (seqSub rxseq rap.rxaStart)) :
    InOrder rap rap' (Net80211.passedUp m v out) := by
  obtain ⟨d, hd, hb, hpos, hfar⟩ := hr.delivers hm hamsdu hw hage
  by_cases hrange : 2048 ≤ seqSub rxseq rap.rxaStart
  · rw [hfar hrange]
    exact InOrder.nil
  · refine .of_delivers hd hw.start_lt fun f hf => ?_
    by_cases h0 : seqSub rxseq rap.rxaStart = 0
    · have := hb.le; omega
    · have := hb.past (.inl h0)
      have := hpos h0 f hf
      omega

/-- **`ieee80211_ampdu_reorder` passes frames up in order.** -/
theorem reorder_inOrder {niHt : Bool} (h : Inv rap) (hrun : rap.running = true)
    (hord : (Op.reorder clk m rxs).ordinary) (hover : ¬ (Op.reorder clk m rxs).overtakes rap)
    (hok : ieee80211AmpduReorder niHt clk rap m rxs = .ok (rap', v, out)) :
    InOrder rap rap' (passedUp m v out) ∧ (passedUp m v out ≠ [] → rap'.waitrx = false) ∧
      rap'.running = rap.running := by
  obtain ⟨hamsdu, hqos, huni⟩ := hord
  have hx : rap.xchgpend = true := h.xchg.trans hrun
  unfold ieee80211AmpduReorder at hok
  split at hok
  · cases hok
  split at hok
  · cases hok
  rw [if_neg (not_not.2 hqos), if_neg (by simp [huni]), if_neg (by simp [hx])] at hok
  split at hok
  · simp only [Except.ok.injEq, Prod.mk.injEq] at hok
    obtain ⟨rfl, rfl, rfl⟩ := hok
    exact ⟨InOrder.nil, fun hne => absurd rfl hne, rfl⟩
  rename_i hfrag
  dsimp only at hok
  split at hok
  · -- the first frame of the session defines the window
    rename_i hwait
    have he := h.waiting hwait
    have hq0 : rap.rxaQframes = 0 := h.qframes_zero fun i _ => he i
    have hhead : reorderAgain clk m.seq m rxs IEEE80211_SEQ_RANGE
        { rap with waitrx := false, rxaStart := m.seq } = .ok (directStart
          { rap with waitrx := false, rxaStart := m.seq } m.seq (ieee80211CheckRxseqAmsdu rxs)
          (ieee80211CheckRxseqAmsduMore rxs), .process, []) := by
      rw [IEEE80211_SEQ_RANGE, reorderAgain, if_pos rfl, if_neg (not_not.2 hq0)]
    rw [hhead] at hok
    simp only [Except.ok.injEq, Prod.mk.injEq] at hok
    obtain ⟨rfl, rfl, rfl⟩ := hok
    refine ⟨InOrder.single ?_, fun _ => (directStart_same _ _ _ _).waitrx,
      (directStart_same _ _ _ _).running⟩
    rw [directStart_start hamsdu]
    simp only [seqBaBefore, seqInc, seqSub, seqAdd]
    omega
  · rename_i hwait
    obtain ⟨rap1, v1, out1, hok1, hr⟩ := reorderAgain_spec clk m rxs m.seq_lt
      IEEE80211_SEQ_RANGE _ h.toWindow (h.wnd_pos hrun) (Nat.mod_lt _ (by decide))
    rw [hok1] at hok
    simp only [Except.ok.injEq, Prod.mk.injEq] at hok
    obtain ⟨rfl, rfl, rfl⟩ := hok
    have hsame := (hr.window rfl h.toWindow).2
    exact ⟨hr.inOrder rfl hamsdu h.toWindow fun ha hpos hin hheld =>
      hover ⟨not_not.1 hfrag, ha, hpos, hin, hheld⟩,
      fun _ => by rw [hsame.waitrx]; simpa using hwait, hsame.running⟩

/-- **`ieee80211_recv_bar` passes frames up in order.** -/
theorem recvBar_inOrder (h : Inv rap) {ena : Bool} {iSeq : BitVec 16}
    (hok : ieee80211RecvBar ena rap iSeq = .ok (rap', out)) :
    InOrder rap rap' out ∧ (out ≠ [] → rap'.waitrx = false) ∧ rap'.running = rap.running := by
  obtain ⟨rap2, out2, hok2, -, hcase⟩ := ieee80211RecvBar_spec h ena iSeq
  rw [hok2] at hok
  simp only [Except.ok.injEq, Prod.mk.injEq] at hok
  obtain ⟨rfl, rfl⟩ := hok
  have hs := h.start_lt
  have hwnd : rap.rxaWnd ≤ 64 := h.wnd_le
  rcases hcase with ⟨he, rfl⟩ | ⟨rap1, i, hadv, rfl, hstart⟩
  · exact ⟨InOrder.nil, fun hne => absurd rfl hne, by rw [he]⟩
  have hiw := hadv.le_wnd
  have hoff := fun f hf => @dispatched_off rap h.toWindow 0 i f hf
  have hpos : ∀ f ∈ dispatched rap.rxaMq 0 i, 0 < seqSub f.seq rap.rxaStart := by
    intro f hf
    obtain ⟨j, -, -, hfj⟩ := mem_dispatched.1 hf
    obtain ⟨x, hx, -⟩ := List.mem_map.1 hfj
    rw [(h.off_slot hfj).1]
    exact h.held_pos hx
  obtain ⟨ho, hst⟩ := dispatched_order h.toWindow (Nat.zero_le i)
  have hwait : dispatched rap.rxaMq 0 i ≠ [] → rap.waitrx = false := by
    intro hne
    by_contra hw
    refine hne ?_
    rw [dispatched, items_eq_nil fun j _ _ => h.waiting (by simpa using hw) j]
    rfl
  rcases hstart with rfl | ⟨hpast, hlt, rfl⟩
  · refine ⟨.of_delivers ⟨hadv.start, fun f hf => (hoff f hf).2, ho, hst⟩ hs fun f hf => by omega,
      fun hne => ?_, hadv.same.running⟩
    rw [hadv.same.waitrx]
    exact hwait hne
  · refine ⟨?_, fun hne => ?_, hadv.same.running⟩
    · have hd : Delivers rap { rap1 with rxaStart := (iSeq >>> 4).toNat }
          (seqSub (iSeq >>> 4).toNat rap.rxaStart) (dispatched rap.rxaMq 0 i) := by
        refine ⟨?_, fun f hf => ?_, ho, hst⟩
        · have := iSeq.isLt
          show (iSeq >>> 4).toNat = _
          simp only [BitVec.toNat_ushiftRight, Nat.shiftRight_eq_div_pow, seqAdd, seqSub]
          omega
        · have := (hoff f hf).2
          omega
      exact .of_delivers hd hs fun f hf => by have := hpos f hf; omega
    · show rap1.waitrx = false
      rw [hadv.same.waitrx]
      exact hwait hne

/-- A frame whose sequence number comes before the window start is discarded. -/
theorem reorder_discards (clk : Clock) (rxs : Option RxStats) (h : Inv rap) (hrun : rap.running = true) (hwait : rap.waitrx = false)
    {tid : Fin WME_NUM_TID} (hm : OfSession tid m) (hbef : seqBaBefore m.seq rap.rxaStart) :
    ieee80211AmpduReorder true clk rap m rxs = .ok (rap, .consumed, []) := by
  have hx : rap.xchgpend = true := h.xchg.trans hrun
  have hs := h.start_lt
  have hlt := m.seq_lt
  have hwnd : rap.rxaWnd ≤ 64 := h.wnd_le
  have hne : m.seq ≠ rap.rxaStart := by
    intro he
    rw [he] at hbef
    simp only [seqBaBefore, seqSub] at hbef
    omega
  have hfar : 2048 ≤ seqSub m.seq rap.rxaStart := by
    simp only [seqBaBefore, seqSub] at hbef ⊢
    omega
  have hfar' : ¬ seqSub m.seq rap.rxaStart < IEEE80211_SEQ_BA_RANGE := Nat.not_lt.2 hfar
  unfold ieee80211AmpduReorder
  rw [if_neg (not_not.2 hm.fromInput), if_neg (by decide), if_neg (not_not.2 hm.qos),
    if_neg (by simp [hm.unicast]), if_neg (by simp [hx]), if_neg (not_not.2 hm.unfragmented)]
  simp only [hwait, IEEE80211_SEQ_RANGE]
  rw [if_neg (by decide), reorderAgain]
  dsimp only
  rw [if_neg hne, if_neg (by omega), if_neg hfar']

theorem Op.apply_session {ni ni' : Node} {op : Op} {v : Option Verdict} {out : List Mbuf}
    (h : op.apply ni = .ok (ni', v, out)) :
    op.session ni.niHt (ni.niRxAmpdu op.tid) = .ok (ni'.niRxAmpdu op.tid, v, out) ∧
      ni'.niHt = ni.niHt := by
  unfold Op.apply at h
  cases hs : op.session ni.niHt (ni.niRxAmpdu op.tid) with
  | error f => rw [hs] at h; cases h
  | ok r =>
    rw [hs] at h
    simp only [Except.map, Except.ok.injEq, Prod.mk.injEq] at h
    obtain ⟨rfl, hv⟩ := h
    rw [← hv]
    simp

/-- **Delivery in order.**  A call on a running session of a reachable node passes frames up in
    the order of their sequence numbers from the old window start (frames of equal number were
    held in one slot), leaves the window start past all of them, and a frame it has passed up is
    discarded when it comes again. -/
theorem delivery_in_order {ni ni' : Node} {op : Op} {v : Option Verdict} {out : List Mbuf}
    (hr : NodeReachable ni) (hord : op.ordinary) (hrun : (ni.niRxAmpdu op.tid).running = true)
    (hover : ¬ op.overtakes (ni.niRxAmpdu op.tid)) (hok : op.apply ni = .ok (ni', v, out)) :
    InOrder (ni.niRxAmpdu op.tid) (ni'.niRxAmpdu op.tid) (op.passedUp v out) ∧
      ∀ f ∈ op.passedUp v out, ∀ clk m rxs, OfSession op.tid m → m.seq = f.seq →
        (Op.reorder clk m rxs).apply ni' = .ok (ni', some .consumed, []) := by
  have hinv := reachable_inv hr
  have hwf : op.wellFormed := by
    cases op with
    | rxStartExt _ _ _ => exact absurd hord id
    | _ => exact trivial
  have hinv' := step_inv hinv ⟨hwf, v, out, hok⟩
  have hs := hinv.sessions op.tid
  obtain ⟨hsess, -⟩ := Op.apply_session hok
  -- the session after the call, and what it passed up
  have key : InOrder (ni.niRxAmpdu op.tid) (ni'.niRxAmpdu op.tid) (op.passedUp v out) ∧
      (op.passedUp v out ≠ [] → (ni'.niRxAmpdu op.tid).waitrx = false) ∧
      (ni'.niRxAmpdu op.tid).running = (ni.niRxAmpdu op.tid).running := by
    generalize ni'.niRxAmpdu op.tid = rap' at hsess ⊢
    generalize ni.niRxAmpdu op.tid = rap at hs hrun hover hsess ⊢
    cases op with
    | reorder clk m rxs =>
      rw [Op.session] at hsess
      cases hok1 : ieee80211AmpduReorder ni.niHt clk rap m rxs with
      | error f => rw [hok1] at hsess; cases hsess
      | ok r =>
        rw [hok1] at hsess
        simp only [Except.map, Except.ok.injEq, Prod.mk.injEq] at hsess
        obtain ⟨rfl, rfl, rfl⟩ := hsess
        have hup : (Op.reorder clk m rxs).passedUp (some r.2.1) r.2.2 =
            Net80211.passedUp m r.2.1 r.2.2 := by
          simp [Op.passedUp, Net80211.passedUp]
        rw [hup]
        exact reorder_inOrder hs hrun hord hover hok1
    | recvBar ena c s =>
      rw [Op.session] at hsess
      cases hok1 : ieee80211RecvBar ena rap s with
      | error f => rw [hok1] at hsess; cases hsess
      | ok r =>
        rw [hok1] at hsess
        simp only [Except.map, Except.ok.injEq, Prod.mk.injEq] at hsess
        obtain ⟨rfl, rfl, rfl⟩ := hsess
        exact recvBar_inOrder hs hok1
    | _ => exact absurd hord id
  refine ⟨key.1, fun f hf clk m rxs hm hseq => ?_⟩
  have hdis := reorder_discards clk rxs (hinv'.sessions op.tid) (key.2.2.trans hrun)
    (key.2.1 (List.ne_nil_of_mem hf)) hm (hseq ▸ key.1.before f hf)
  have hsess' : (Op.reorder clk m rxs).session ni'.niHt (ni'.niRxAmpdu m.tid) =
      .ok (ni'.niRxAmpdu m.tid, some .consumed, []) := by
    rw [hm.tid_eq, hinv'.ht, Op.session, hdis]
    rfl
  rw [Op.apply_ok hsess']
  show Except.ok ({ ni' with niRxAmpdu := Function.update ni'.niRxAmpdu m.tid _ }, _) = _
  rw [Function.update_eq_self]

/-- The sequence numbers a call passes up, and the window start it leaves. -/
def Op.observe (op : Op) (ni : Node) : Option (List Nat × Nat) :=
  (op.apply ni).toOption.map fun r =>
    ((op.passedUp r.2.1 r.2.2).map Mbuf.seq, (r.1.niRxAmpdu op.tid).rxaStart)

theorem Op.observe_some {op : Op} {ni : Node} {x : List Nat × Nat} (h : op.observe ni = some x) :
    ∃ ni' v out, op.apply ni = .ok (ni', v, out) ∧ (op.passedUp v out).map Mbuf.seq = x.1 ∧
      (ni'.niRxAmpdu op.tid).rxaStart = x.2 := by
  unfold Op.observe at h
  cases ha : op.apply ni with
  | error f => rw [ha] at h; cases h
  | ok r =>
    rw [ha] at h
    simp only [Except.toOption, Option.map_some, Option.some.injEq] at h
    exact ⟨r.1, r.2.1, r.2.2, rfl, by rw [← h], by rw [← h]⟩

/-- Frame 2 is held, then the head of the window arrives. -/
theorem delivery_in_order_run :
    ∃ ni ni' v out, NodeReachable ni ∧
      (Op.reorder ⟨0, 500⟩ (qosMbuf 1 none) none).apply ni = .ok (ni', v, out) ∧
      ((Op.reorder ⟨0, 500⟩ (qosMbuf 1 none) none).passedUp v out).map Mbuf.seq = [1, 2] ∧
      InOrder (ni.niRxAmpdu 0) (ni'.niRxAmpdu 0)
        ((Op.reorder ⟨0, 500⟩ (qosMbuf 1 none) none).passedUp v out) := by
  obtain ⟨ni, hr, hx⟩ := runOps_observe
    [.rxStartExt 0 1 4, .reorder ⟨0, 500⟩ (qosMbuf 2 none) none]
    (fun ni => ((ni.niRxAmpdu 0).running, (ni.niRxAmpdu 0).rxaStart,
      (Op.reorder ⟨0, 500⟩ (qosMbuf 1 none) none).observe ni))
    (x := (true, 1, some ([1, 2], 3))) (by simp [Op.wellFormed]) (by decide)
  simp only [Prod.mk.injEq] at hx
  obtain ⟨hrun, hs, hobs⟩ := hx
  obtain ⟨ni', v, out, hok, hseq, -⟩ := Op.observe_some hobs
  have hhead : ¬ 0 < seqSub (qosMbuf 1 none).seq (ni.niRxAmpdu 0).rxaStart := by
    rw [hs]; decide
  have hord : (Op.reorder ⟨0, 500⟩ (qosMbuf 1 none) none).ordinary := ⟨rfl, rfl, by decide⟩
  exact ⟨ni, ni', v, out, hr, hok, hseq,
    (delivery_in_order hr hord hrun (fun h => hhead h.2.2.1) hok).1⟩

/-- Everything passed up is strictly in order from `s`, and before the window start `start`. -/
def StrictlyInOrder (s : Nat) (x : List Nat × Nat) : Prop :=
  (x.1.map fun q => seqSub q s).Pairwise (· < ·) ∧ ∀ q ∈ x.1, seqBaBefore q x.2

instance (s : Nat) (x : List Nat × Nat) : Decidable (StrictlyInOrder s x) :=
  inferInstanceAs (Decidable (_ ∧ _))

/-- A reachable running session, and a frame that is not part of an A-MSDU, for which the strict
    order fails. -/
def StrictOrderFails (op : Op) : Prop :=
  ∃ ni x, NodeReachable ni ∧ (ni.niRxAmpdu op.tid).running = true ∧ op.observe ni = some x ∧
    ¬ StrictlyInOrder (ni.niRxAmpdu op.tid).rxaStart x

theorem strictOrderFails_of (ops : List Op) (op : Op) {s : Nat} {x : List Nat × Nat}
    (hwf : ∀ op ∈ ops, op.wellFormed)
    (h : (runOps ops ieee80211HtNodeInit).toOption.map
      (fun ni => ((ni.niRxAmpdu op.tid).running, (ni.niRxAmpdu op.tid).rxaStart, op.observe ni)) =
        some (true, s, some x))
    (hx : ¬ StrictlyInOrder s x) : StrictOrderFails op := by
  obtain ⟨ni, hr, ho⟩ := runOps_observe ops _ hwf h
  simp only [Prod.mk.injEq] at ho
  obtain ⟨hrun, hs, hobs⟩ := ho
  exact ⟨ni, x, hr, hrun, hobs, by rw [hs]; exact hx⟩

/-- Where the strict order fails: two subframes of one A-MSDU share a slot; a multicast frame does
    not belong to the session; an aging flush pushes out frame 2 before frame 1, and leaves the
    window start at 2. -/
theorem delivery_not_always_strict :
    StrictOrderFails (.reorder ⟨0, 500⟩ (qosMbuf 0 none) none) ∧
      StrictOrderFails (.reorder ⟨0, 500⟩ { qosMbuf 9 none with iAddr1 := 1 } none) ∧
      StrictOrderFails (.reorder ⟨1000, 500⟩ (qosMbuf 1 none) none) := by
  refine ⟨?_, ?_, ?_⟩
  · exact strictOrderFails_of
      [.rxStartExt 0 0 4, .reorder ⟨0, 500⟩ (qosMbuf 1 (some ⟨0xc⟩)) (some ⟨0xc⟩),
        .reorder ⟨0, 500⟩ (qosMbuf 1 (some ⟨0x4⟩)) (some ⟨0x4⟩)] _ (s := 0) (x := ([0, 1, 1], 2))
      (by simp [Op.wellFormed]) (by decide) (by decide)
  · exact strictOrderFails_of [.rxStartExt 0 0 4] _ (s := 0) (x := ([9], 0))
      (by simp [Op.wellFormed]) (by decide) (by decide)
  · exact strictOrderFails_of [.rxStartExt 0 0 4, .reorder ⟨0, 500⟩ (qosMbuf 2 none) none] _
      (s := 0) (x := ([2, 1], 2)) (by simp [Op.wellFormed]) (by decide) (by decide)

end Net80211
