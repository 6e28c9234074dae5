import Wifi.Net80211.AmpduAmsdu

/-!
# Runs of the subframes of an A-MSDU

* `Space.outcomes_true_iff`, `Space.outcomes_false_iff` — when one slot takes all subframes, and when none.
* `inside_step`, `head_step`, `behind_step`, `run_step` — one subframe, by where the window is.
* `move_spec` — a frame behind the window moves it until the frame is in it.
* `subframes_alike_iff` — the subframes of an A-MSDU are treated alike exactly when `AlikeWhen` holds.
-/

namespace Net80211

open Slots Runs

/-! ## One slot -/

section Slot

variable {s : Space} {clk : Clock} {clks : List Clock}

theorem Space.outcomes_true_iff : (∀ b ∈ outcomes takes next s clks, b = true) ↔ s.Fits clks := by
  induction clks generalizing s with
  | nil => simp [outcomes, Fits]
  | cons clk clks ih =>
    unfold outcomes Fits
    rw [List.forall_mem_cons, ih]

theorem Space.takes_eq_false : s.takes clk = false ↔ s.room = 0 ∧ s.late clk = false := by
  unfold takes
  rw [Bool.or_eq_false_iff, decide_eq_false_iff_not, Nat.not_lt, Nat.le_zero]
  exact and_comm

/-- A slot that does not take a subframe stays as it is. -/
theorem Space.next_of_refused (hs : s.age = none → 0 < s.room) (h : s.takes clk = false) : s.next clk = s := by
  obtain ⟨hroom, hlate⟩ := takes_eq_false.mp h
  obtain ⟨age, room⟩ := s
  cases age with
  | none => exact absurd (hs rfl) (by simpa using hroom)
  | some age =>
    unfold next
    rw [hlate, if_neg (by decide)]
    cases hroom
    rfl

theorem Space.outcomes_false_iff (hs : s.age = none → 0 < s.room) (hne : clks ≠ []) :
    (∀ b ∈ outcomes takes next s clks, b = false) ↔ s.Refuses clks := by
  induction clks with
  | nil => exact absurd rfl hne
  | cons clk clks ih =>
    unfold outcomes Refuses
    rw [List.forall_mem_cons, List.forall_mem_cons, takes_eq_false]
    cases clks with
    | nil => simp [outcomes]
    | cons clk' clks =>
      constructor
      · rintro ⟨⟨hroom, hlate⟩, hrest⟩
        rw [next_of_refused hs (takes_eq_false.mpr ⟨hroom, hlate⟩), ih (List.cons_ne_nil _ _)] at hrest
        exact ⟨hroom, hlate, hrest.2⟩
      · rintro ⟨hroom, hlate, hrest⟩
        refine ⟨⟨hroom, hlate⟩, ?_⟩
        rw [next_of_refused hs (takes_eq_false.mpr ⟨hroom, hlate⟩), ih (List.cons_ne_nil _ _)]
        exact ⟨hroom, hrest⟩

theorem outcomes_const (b : Bool) (clks : List Clock) :
    ∀ x ∈ outcomes (fun (_ : Unit) _ => b) (fun _ _ => ()) () clks, x = b := by
  induction clks with
  | nil => simp [outcomes]
  | cons clk clks ih => exact List.forall_mem_cons.mpr ⟨rfl, ih⟩

end Slot

/-! ## What is said of a call -/

def Treated (kept : Bool) (c : Call) : Prop := if kept then c.Kept else c.Discarded

theorem Call.not_kept_and_discarded {c : Call} (hk : c.Kept) (hd : c.Discarded) : False := by
  have hlen := (hk.symm.trans hd).length_eq
  rw [List.length_cons] at hlen
  omega

theorem Treated.kept_iff {b : Bool} {c : Call} (h : Treated b c) : c.Kept ↔ b = true := by
  cases b with
  | true => exact iff_of_true h rfl
  | false => exact iff_of_false (fun hk => Call.not_kept_and_discarded hk h) (by decide)

theorem Treated.discarded_iff {b : Bool} {c : Call} (h : Treated b c) : c.Discarded ↔ b = false := by
  cases b with
  | true => exact iff_of_false (fun hd => Call.not_kept_and_discarded h hd) (by decide)
  | false => exact iff_of_true h rfl

/-- **Alike, by what happens to each.** -/
theorem alike_iff {bs : List Bool} {calls : List Call} (h : List.Forall₂ Treated bs calls) :
    Alike calls ↔ (∀ b ∈ bs, b = true) ∨ ∀ b ∈ bs, b = false := by
  have hboth : ((∀ c ∈ calls, c.Kept) ↔ ∀ b ∈ bs, b = true) ∧
      ((∀ c ∈ calls, c.Discarded) ↔ ∀ b ∈ bs, b = false) := by
    induction h with
    | nil => simp
    | cons hc _ ih =>
      rw [List.forall_mem_cons, List.forall_mem_cons, List.forall_mem_cons, List.forall_mem_cons, hc.kept_iff,
        hc.discarded_iff, ih.1, ih.2]
      exact ⟨Iff.rfl, Iff.rfl⟩
  unfold Alike
  rw [hboth.1, hboth.2]

/-! ## What is held -/

theorem held_of_empty {rap : RxAmpdu} (h : ∀ i, rap.rxaMq i = []) : held rap = [] := by
  unfold held dispatched
  rw [items_eq_nil fun j _ _ => h j, List.map_nil]

theorem held_congr {rap rap' : RxAmpdu} (hmq : rap'.rxaMq = rap.rxaMq) (hwnd : rap'.rxaWnd = rap.rxaWnd) :
    held rap' = held rap := by
  unfold held
  rw [hmq, hwnd]

theorem dispatched_mark (mq : Nat → List Mbuf) (a b : Nat) :
    (dispatched mq a b).map ampduDispatch = dispatched mq a b := by
  unfold dispatched
  rw [List.map_map]
  rfl

theorem Advanced.held {rap rap' : RxAmpdu} {i : Nat} (h : Advanced rap rap' i) :
    held rap = dispatched rap.rxaMq 0 i ++ held rap' := by
  unfold Net80211.held dispatched
  rw [h.mq, h.same.wnd, items_shift _ h.le_wnd, ← List.map_append, ← items_append _ (Nat.zero_le i) h.le_wnd]

theorem held_put {rap rap' : RxAmpdu} {off : Nat} {m : Mbuf} (hmq : rap'.rxaMq = put rap.rxaMq off [m])
    (hwnd : rap'.rxaWnd = rap.rxaWnd) (hoff : off < rap.rxaWnd) :
    (held rap').Perm (ampduDispatch m :: held rap) := by
  unfold held dispatched
  rw [hmq, hwnd]
  exact (items_put rap.rxaMq [m] (Nat.zero_le _) hoff).map ampduDispatch

/-! ## A frame in the window -/

section Steps

variable {clk : Clock} {m : Mbuf} {rap : RxAmpdu} {rxseq fuel : Nat}

/-- A frame that is not the first of the window is in it. -/
structure Inside (rap : RxAmpdu) (rxseq : Nat) : Prop extends Window rap where
  ne : rxseq ≠ rap.rxaStart
  lt : seqSub rxseq rap.rxaStart < rap.rxaWnd
  xchgpend : rap.xchgpend = true
  waitrx : rap.waitrx = false

def spaceAt (rap : RxAmpdu) (rxseq : Nat) : Space :=
  ⟨ageOf rap, roomOf (rap.rxaMq (seqSub rxseq rap.rxaStart))⟩

theorem late_iff : (spaceAt rap rxseq).late clk = true ↔ rap.rxaQframes ≠ 0 ∧ rap.aged clk = true := by
  unfold spaceAt ageOf Space.late RxAmpdu.aged
  by_cases hq : rap.rxaQframes = 0
  · rw [if_pos hq]
    exact iff_of_false nofun fun h => h.1 hq
  · rw [if_neg hq]
    exact ⟨fun h => ⟨hq, h⟩, fun h => h.2⟩

theorem roomOf_nil : roomOf [] = mqMaxlen := rfl

/-- A subframe behind which more will come, in its slot. -/
theorem roomOf_concat {slot : List Mbuf} (hmore : ieee80211CheckRxseqAmsduMore m.rxs = false)
    (hroom : 0 < roomOf slot) : roomOf (slot ++ [m]) = roomOf slot - 1 := by
  unfold roomOf at hroom ⊢
  have hlast : ieee80211CheckRxseqAmsduMore ((slot ++ [m]).getLast?.bind (·.rxs)) = false := by
    rw [List.getLast?_append]
    exact hmore
  rw [if_pos (.inr hlast), List.length_append, List.length_singleton]
  by_cases htakes : slot = [] ∨ ieee80211CheckRxseqAmsduMore (slot.getLast?.bind (·.rxs)) = false
  · rw [if_pos htakes]
    omega
  · rw [if_neg htakes] at hroom
    omega

theorem ageOf_held (hw : Window rap) {i : Nat} (hi : rap.rxaMq i ≠ []) : ageOf rap = some rap.rxaAge := by
  unfold ageOf
  rw [if_neg fun hq => hi (hw.empty hq i)]

theorem room_of_no_age (hw : Window rap) (h : (spaceAt rap rxseq).age = none) : (spaceAt rap rxseq).room = mqMaxlen := by
  unfold spaceAt ageOf at h
  by_cases hq : rap.rxaQframes = 0
  · unfold spaceAt
    dsimp only
    rw [hw.empty hq]
    exact roomOf_nil
  · rw [if_neg hq] at h
    cases h

/-- `ampdu_rx_add_slot` takes a subframe where there is room. -/
theorem addSlot_eq (rap : RxAmpdu) (hamsdu : ieee80211CheckRxseqAmsdu m.rxs = true) (off : Nat) :
    ampduRxAddSlot rap off m m.rxs =
      if 0 < roomOf (rap.rxaMq off) then
        { rap with rxaMq := put rap.rxaMq off [m]
                   rxaQframes := wrap16 (rap.rxaQframes + 1)
                   rxaQbytes := wrap32 (rap.rxaQbytes + m.pktLen) }
      else rap := by
  have happ : ∀ final, appendable m.rxs final = true ↔ ieee80211CheckRxseqAmsduMore final = false := by
    intro final
    cases hm : m.rxs with
    | none =>
      rw [hm] at hamsdu
      cases hamsdu
    | some r =>
      rw [hm] at hamsdu
      cases final with
      | none => simp [appendable, ieee80211CheckRxseqAmsduMore]
      | some f =>
        unfold appendable
        rw [hamsdu]
        by_cases hf : f.cPktflags &&& IEEE80211_RX_F_AMSDU = 0
        · simp [ieee80211CheckRxseqAmsdu, ieee80211CheckRxseqAmsduMore, hf]
        · simp only [ieee80211CheckRxseqAmsdu, ieee80211CheckRxseqAmsduMore, if_neg hf]
          simp
          exact fun _ => hf
  unfold ampduRxAddSlot roomOf
  dsimp only
  by_cases htakes : rap.rxaMq off = [] ∨
      ieee80211CheckRxseqAmsduMore ((rap.rxaMq off).getLast?.bind (·.rxs)) = false
  · rw [if_pos (htakes.imp id (happ _).mpr), if_pos htakes]
    by_cases hfull : mqMaxlen ≤ (rap.rxaMq off).length
    · rw [if_pos hfull, if_neg (by omega)]
    · rw [if_neg hfull, if_pos (by omega)]
  · rw [if_neg (fun h => htakes (h.imp id (happ _).mp)), if_neg htakes, if_neg (Nat.lt_irrefl 0)]

theorem addSlot_taken (rap : RxAmpdu) (hamsdu : ieee80211CheckRxseqAmsdu m.rxs = true) {off : Nat}
    (hroom : 0 < roomOf (rap.rxaMq off)) :
    ampduRxAddSlot rap off m m.rxs =
      { rap with rxaMq := put rap.rxaMq off [m]
                 rxaQframes := wrap16 (rap.rxaQframes + 1)
                 rxaQbytes := wrap32 (rap.rxaQbytes + m.pktLen) } := by
  rw [addSlot_eq rap hamsdu, if_pos hroom]

theorem addSlot_refused (rap : RxAmpdu) (hamsdu : ieee80211CheckRxseqAmsdu m.rxs = true) {off : Nat}
    (hroom : roomOf (rap.rxaMq off) = 0) : ampduRxAddSlot rap off m m.rxs = rap := by
  rw [addSlot_eq rap hamsdu, if_neg (by omega)]

theorem directStart_more (hamsdu : ieee80211CheckRxseqAmsdu m.rxs = true)
    (hmore : ieee80211CheckRxseqAmsduMore m.rxs = false) :
    directStart rap rxseq (ieee80211CheckRxseqAmsdu m.rxs) (ieee80211CheckRxseqAmsduMore m.rxs) = rap := by
  unfold directStart
  rw [hamsdu, hmore]
  rfl

theorem reorderAgain_inside (hne : rxseq ≠ rap.rxaStart) (hlt : seqSub rxseq rap.rxaStart < rap.rxaWnd)
    (rxs : Option RxStats) :
    reorderAgain clk rxseq m rxs (fuel + 1) rap =
      if rap.rxaQframes ≠ 0 ∧ rap.aged clk = true then
        .ok (directStart (ampduRxFlush rap).1 rxseq (ieee80211CheckRxseqAmsdu rxs) (ieee80211CheckRxseqAmsduMore rxs),
          .process, (ampduRxFlush rap).2)
      else
        .ok (ampduRxAddSlot { rap with rxaAge := (ageOf rap).getD clk.ticks } (seqSub rxseq rap.rxaStart) m rxs,
          .consumed, []) := by
  unfold reorderAgain ageOf
  dsimp only
  rw [if_neg hne, if_pos hlt]
  by_cases hq : rap.rxaQframes = 0
  · rw [if_neg (not_not_intro hq), if_neg (fun h => h.1 hq), if_pos hq]
    rfl
  · rw [if_pos hq, if_neg hq]
    by_cases hage : rap.aged clk = true
    · rw [if_pos hage, if_pos ⟨hq, hage⟩]
    · rw [if_neg hage, if_neg (fun h => hage h.2)]
      rfl

variable (clk fuel) in
/-- What is pushed out, with the frame after it, is everything. -/
theorem inside_late (h : Inside rap rxseq) (hamsdu : ieee80211CheckRxseqAmsdu m.rxs = true)
    (hq : rap.rxaQframes ≠ 0) (hage : rap.aged clk = true) :
    ∃ rap' v out, reorderAgain clk rxseq m m.rxs (fuel + 1) rap = .ok (rap', v, out) ∧
      Treated true ⟨rap, m, rap', passedUp m v out⟩ ∧
      (ieee80211CheckRxseqAmsduMore m.rxs = false →
        Inside rap' rxseq ∧ spaceAt rap' rxseq = { age := none, room := mqMaxlen }) := by
  obtain ⟨rap', hflush, hbare, hw', hempty⟩ := ampduRxFlush_spec h.toWindow
  rw [reorderAgain_inside h.ne h.lt, if_pos ⟨hq, hage⟩, hflush]
  refine ⟨_, _, _, rfl, ?_, fun hmore => ?_⟩
  · unfold Treated Call.Kept passedUp
    dsimp only
    rw [if_pos rfl, if_pos rfl, held_congr (directStart_mq rap' _ _ _) (directStart_same rap' _ _ _).wnd,
      held_of_empty hempty, List.nil_append, List.map_append, dispatched_mark]
    exact List.perm_append_singleton _ _
  · rw [directStart_more hamsdu hmore]
    refine ⟨⟨hw', ?_, ?_, ?_, ?_⟩, ?_⟩
    · rw [bare_start hbare]
      exact h.ne
    · rw [bare_start hbare, bare_wnd hbare]
      exact h.lt
    · rw [bare_xchgpend hbare]
      exact h.xchgpend
    · rw [bare_waitrx hbare]
      exact h.waitrx
    · unfold spaceAt ageOf
      dsimp only
      rw [if_pos (hw'.qframes_zero fun i _ => hempty i), hempty]
      rfl

variable (clk fuel) in
theorem inside_stored (h : Inside rap rxseq) (hseq : m.seq = rxseq)
    (hamsdu : ieee80211CheckRxseqAmsdu m.rxs = true) (hlate : ¬ (rap.rxaQframes ≠ 0 ∧ rap.aged clk = true))
    (hroom : 0 < (spaceAt rap rxseq).room) :
    ∃ rap' v out, reorderAgain clk rxseq m m.rxs (fuel + 1) rap = .ok (rap', v, out) ∧
      Treated true ⟨rap, m, rap', passedUp m v out⟩ ∧
      (ieee80211CheckRxseqAmsduMore m.rxs = false → Inside rap' rxseq ∧ spaceAt rap' rxseq =
        { age := some ((ageOf rap).getD clk.ticks), room := (spaceAt rap rxseq).room - 1 }) := by
  have hrx : rxseq < 4096 := hseq ▸ m.seq_lt
  have hoff : 0 < seqSub rxseq rap.rxaStart := by
    have := h.start_lt
    have := h.ne
    simp only [seqSub]
    omega
  obtain ⟨hw', hsame, hstart⟩ := ampduRxAddSlot_spec (h.toWindow.setAge ((ageOf rap).getD clk.ticks)) m.rxs hoff h.lt
    (hseq.trans (seqAdd_seqSub hrx h.start_lt))
  have hstore := addSlot_taken { rap with rxaAge := (ageOf rap).getD clk.ticks } hamsdu hroom
  rw [reorderAgain_inside h.ne h.lt, if_neg hlate]
  rw [hstore] at hw' hsame hstart ⊢
  refine ⟨_, _, _, rfl, ?_, fun hmore => ⟨⟨hw', ?_, ?_, ?_, ?_⟩, ?_⟩⟩
  · unfold Treated Call.Kept passedUp
    dsimp only
    rw [if_pos rfl, if_neg (by decide), List.map_nil, List.append_nil]
    exact held_put rfl rfl h.lt
  · exact h.ne
  · exact h.lt
  · exact h.xchgpend
  · exact h.waitrx
  · -- the frame is the last of its slot now
    have hslot : put rap.rxaMq (seqSub rxseq rap.rxaStart) [m] (seqSub rxseq rap.rxaStart) =
        rap.rxaMq (seqSub rxseq rap.rxaStart) ++ [m] := put_self _ _ _
    have hne : put rap.rxaMq (seqSub rxseq rap.rxaStart) [m] (seqSub rxseq rap.rxaStart) ≠ [] := by
      rw [hslot]
      simp
    unfold spaceAt
    rw [ageOf_held hw' hne]
    dsimp only
    rw [hslot, roomOf_concat hmore hroom]

variable (clk fuel) in
theorem inside_refused (h : Inside rap rxseq) (hamsdu : ieee80211CheckRxseqAmsdu m.rxs = true)
    (hlate : ¬ (rap.rxaQframes ≠ 0 ∧ rap.aged clk = true)) (hroom : (spaceAt rap rxseq).room = 0) :
    ∃ rap' v out, reorderAgain clk rxseq m m.rxs (fuel + 1) rap = .ok (rap', v, out) ∧
      Treated false ⟨rap, m, rap', passedUp m v out⟩ ∧ rap' = rap := by
  have hage : ageOf rap = some rap.rxaAge := by
    cases ha : ageOf rap with
    | none =>
      have := (room_of_no_age h.toWindow ha : (spaceAt rap rxseq).room = mqMaxlen)
      rw [hroom] at this
      cases this
    | some age =>
      unfold ageOf at ha
      by_cases hq : rap.rxaQframes = 0
      · rw [if_pos hq] at ha
        cases ha
      · rw [if_neg hq] at ha
        exact ha.symm
  have hstore := addSlot_refused { rap with rxaAge := (some rap.rxaAge).getD clk.ticks } hamsdu hroom
  rw [reorderAgain_inside h.ne h.lt, if_neg hlate, hage, hstore]
  refine ⟨_, _, _, rfl, ?_, rfl⟩
  unfold Treated Call.Discarded passedUp
  dsimp only
  rw [if_neg (by decide), if_neg (by decide), List.map_nil, List.append_nil]
  exact List.Perm.refl _

variable (clk fuel) in
/-- **One subframe in the window.** -/
theorem inside_step (h : Inside rap rxseq) (hseq : m.seq = rxseq) (hamsdu : ieee80211CheckRxseqAmsdu m.rxs = true) :
    ∃ rap' v out, reorderAgain clk rxseq m m.rxs (fuel + 1) rap = .ok (rap', v, out) ∧
      Treated ((spaceAt rap rxseq).takes clk) ⟨rap, m, rap', passedUp m v out⟩ ∧
      (ieee80211CheckRxseqAmsduMore m.rxs = false →
        Inside rap' rxseq ∧ spaceAt rap' rxseq = (spaceAt rap rxseq).next clk) := by
  by_cases hlate : rap.rxaQframes ≠ 0 ∧ rap.aged clk = true
  · have hl : (spaceAt rap rxseq).late clk = true := late_iff.mpr hlate
    have htakes : (spaceAt rap rxseq).takes clk = true := by simp [Space.takes, hl]
    obtain ⟨rap', v, out, hok, htreated, hnext⟩ := inside_late clk fuel h hamsdu hlate.1 hlate.2
    refine ⟨rap', v, out, hok, by rw [htakes]; exact htreated, ?_⟩
    unfold Space.next
    rw [if_pos hl]
    exact hnext
  · have hl : (spaceAt rap rxseq).late clk ≠ true := fun hl => hlate (late_iff.mp hl)
    by_cases hroom : 0 < (spaceAt rap rxseq).room
    · have htakes : (spaceAt rap rxseq).takes clk = true := by simp [Space.takes, hroom]
      obtain ⟨rap', v, out, hok, htreated, hnext⟩ := inside_stored clk fuel h hseq hamsdu hlate hroom
      refine ⟨rap', v, out, hok, by rw [htakes]; exact htreated, ?_⟩
      unfold Space.next
      rw [if_neg hl]
      exact hnext
    · have hzero : (spaceAt rap rxseq).room = 0 := by omega
      have htakes : (spaceAt rap rxseq).takes clk = false :=
        Space.takes_eq_false.mpr ⟨hzero, Bool.not_eq_true _ |>.mp hl⟩
      obtain ⟨rap', v, out, hok, htreated, hsame⟩ := inside_refused clk fuel h hamsdu hlate hzero
      refine ⟨rap', v, out, hok, by rw [htakes]; exact htreated, fun _ => ?_⟩
      subst hsame
      refine ⟨h, (Space.next_of_refused (fun hnone => ?_) htakes).symm⟩
      rw [room_of_no_age h.toWindow hnone]
      decide

/-! ## A frame at the head of the window -/

/-- A frame is the first of the window, and nothing is held. -/
structure AtHead (rap : RxAmpdu) (rxseq : Nat) : Prop extends Window rap where
  start : rxseq = rap.rxaStart
  qframes_zero : rap.rxaQframes = 0
  xchgpend : rap.xchgpend = true
  waitrx : rap.waitrx = false

variable (clk fuel) in
theorem head_step (h : AtHead rap rxseq) (hamsdu : ieee80211CheckRxseqAmsdu m.rxs = true) :
    ∃ rap' v out, reorderAgain clk rxseq m m.rxs (fuel + 1) rap = .ok (rap', v, out) ∧
      Treated true ⟨rap, m, rap', passedUp m v out⟩ ∧
      (ieee80211CheckRxseqAmsduMore m.rxs = false → AtHead rap' rxseq) := by
  unfold reorderAgain
  dsimp only
  rw [if_pos h.start, if_neg (not_not_intro h.qframes_zero)]
  refine ⟨_, _, _, rfl, ?_, fun hmore => ?_⟩
  · unfold Treated Call.Kept passedUp
    dsimp only
    rw [if_pos rfl, if_pos rfl, held_congr (directStart_mq rap _ _ _) (directStart_same rap _ _ _).wnd]
    exact List.perm_append_singleton _ _
  · rw [directStart_more hamsdu hmore]
    exact h

structure Behind (rap : RxAmpdu) (rxseq : Nat) : Prop extends Window rap where
  far : 2048 ≤ seqSub rxseq rap.rxaStart
  xchgpend : rap.xchgpend = true
  waitrx : rap.waitrx = false

variable (clk fuel) in
theorem behind_step (m : Mbuf) (h : Behind rap rxseq) :
    ∃ rap' v out, reorderAgain clk rxseq m m.rxs (fuel + 1) rap = .ok (rap', v, out) ∧
      Treated false ⟨rap, m, rap', passedUp m v out⟩ ∧ rap' = rap := by
  have hfar := h.far
  have hwnd : rap.rxaWnd ≤ 64 := h.wnd_le
  have hne : rxseq ≠ rap.rxaStart := by
    rintro rfl
    have := h.start_lt
    simp only [seqSub] at hfar
    omega
  have hrange : ¬ seqSub rxseq rap.rxaStart < IEEE80211_SEQ_BA_RANGE := by
    simp only [IEEE80211_SEQ_BA_RANGE]
    omega
  unfold reorderAgain
  dsimp only
  rw [if_neg hne, if_neg (by omega), if_neg hrange]
  refine ⟨_, _, _, rfl, ?_, rfl⟩
  unfold Treated Call.Discarded passedUp
  dsimp only
  rw [if_neg (by decide), if_neg (by decide), List.map_nil, List.append_nil]

variable (clk fuel) in
/-- **The first frame of the window, before others that are held**: the window moves past it. -/
theorem run_step (m : Mbuf) (hw : Window rap) (hpos : 0 < rap.rxaWnd) (hstart : rxseq = rap.rxaStart)
    (hq : rap.rxaQframes ≠ 0) (hxchg : rap.xchgpend = true) (hwait : rap.waitrx = false) :
    ∃ rap' v out, reorderAgain clk rxseq m m.rxs (fuel + 1) rap = .ok (rap', v, out) ∧
      Treated true ⟨rap, m, rap', passedUp m v out⟩ ∧ Behind rap' rxseq := by
  obtain ⟨rap', i, hok, hadv, hw'⟩ := ampduRxDispatch_spec hw hpos
  unfold reorderAgain
  dsimp only
  rw [if_pos hstart, if_pos hq, if_neg (not_not_intro hw.slot0), hok]
  refine ⟨_, _, _, rfl, ?_, hw', ?_, ?_, ?_⟩
  · have hfirst : dispatched rap.rxaMq 0 i = dispatched rap.rxaMq 1 i := by
      rw [dispatched_step _ hadv.pos, hw.slot0, clear_of_empty hw.slot0]
      rfl
    unfold Treated Call.Kept passedUp
    dsimp only
    rw [if_pos rfl, if_neg (by decide), List.map_cons, dispatched_mark, hadv.held, hfirst]
    exact List.perm_middle.trans ((List.perm_append_comm).cons _)
  · have hi := hadv.pos
    have hiw := hadv.le_wnd
    have hwnd : rap.rxaWnd ≤ 64 := hw.wnd_le
    have hlt := hw.start_lt
    rw [hadv.start, hstart]
    simp only [seqSub, seqAdd]
    omega
  · rw [hadv.same.xchgpend]
    exact hxchg
  · rw [hadv.same.waitrx]
    exact hwait

/-! ## A frame behind the window -/

theorem bare_age {rap' : RxAmpdu} (h : rap'.bare = rap.bare) : rap'.rxaAge = rap.rxaAge :=
  (congrArg RxAmpdu.rxaAge h : rap'.bare.rxaAge = _)

theorem flushUptoLoop_passes (winstart : Nat) : ∀ (k i seqno : Nat) (rap rap' : RxAmpdu) (i' seqno' : Nat)
    (out : List Mbuf), seqno < 4096 → ampduRxFlushUptoLoop winstart k i seqno rap = (rap', i', seqno', out) →
    ∀ j, i ≤ j → j < i' → rap.rxaMq j ≠ [] ∨ seqBaBefore (seqAdd seqno (j - i)) winstart
  | 0, i, seqno, rap, rap', i', seqno', out, _, h, j, hij, hj => by
    simp only [ampduRxFlushUptoLoop, Prod.mk.injEq] at h
    omega
  | k + 1, i, seqno, rap, rap', i', seqno', out, hs, h, j, hij, hj => by
    have hnext : i ≠ j → seqAdd (seqInc seqno) (j - (i + 1)) = seqAdd seqno (j - i) := by
      intro hne
      simp only [seqInc, seqAdd]
      omega
    have hself : seqAdd seqno (i - i) = seqno := by
      simp only [seqAdd]
      omega
    have hs' : seqInc seqno < 4096 := by
      simp only [seqInc, seqAdd]
      omega
    simp only [ampduRxFlushUptoLoop, ampduDispatchSlot] at h
    by_cases hslot : rap.rxaMq i ≠ []
    · rw [if_pos hslot] at h
      rcases hr : ampduRxFlushUptoLoop winstart k (i + 1) (seqInc seqno) (rap.drain i) with ⟨r, i1, q, o⟩
      rw [hr] at h
      simp only [Prod.mk.injEq] at h
      obtain ⟨rfl, rfl, rfl, rfl⟩ := h
      by_cases hji : i = j
      · exact .inl (hji ▸ hslot)
      · have hrest := flushUptoLoop_passes winstart k (i + 1) _ _ _ _ _ _ hs' hr j (by omega) hj
        rw [hnext hji, drain_rxaMq, clear_ne _ (by omega)] at hrest
        exact hrest
    · rw [if_neg hslot] at h
      by_cases hbefore : seqBaBefore seqno winstart
      · rw [if_neg (not_not_intro hbefore)] at h
        by_cases hji : i = j
        · rw [← hji, hself]
          exact .inr hbefore
        · have hrest := flushUptoLoop_passes winstart k (i + 1) _ _ _ _ _ _ hs' h j (by omega) hj
          rw [hnext hji] at hrest
          exact hrest
      · rw [if_pos hbefore] at h
        simp only [Prod.mk.injEq] at h
        omega

/-- **`ampdu_rx_flush_upto`**, with where it stops. -/
theorem flushUpto_stops (hw : Window rap) (hpos : 0 < rap.rxaWnd) {winstart : Nat}
    (hbefore : seqBaBefore rap.rxaStart winstart) :
    ∃ rap' i, ampduRxFlushUpto rap winstart = .ok (rap', dispatched rap.rxaMq 0 i) ∧ Advanced rap rap' i ∧
      Window rap' ∧ rap'.rxaAge = rap.rxaAge ∧
      (i < rap.rxaWnd → ¬ seqBaBefore (seqAdd rap.rxaStart i) winstart) ∧
      ∀ j < i, rap.rxaMq j ≠ [] ∨ seqBaBefore (seqAdd rap.rxaStart j) winstart := by
  obtain ⟨rap', i, hok, hadv, hw', hstop⟩ := ampduRxFlushUpto_spec hw hpos hbefore
  rcases hloop : ampduRxFlushUptoLoop winstart rap.rxaWnd 0 rap.rxaStart rap with ⟨rap1, i1, q, out⟩
  obtain ⟨hbare, -, -, hi1, hq, -, -, -⟩ := ampduRxFlushUptoLoop_spec winstart rap.rxaWnd 0 rap.rxaStart rap _ _ _ _
    hw.toAccounted (by omega) hw.start_lt hloop
  have hpasses := flushUptoLoop_passes winstart rap.rxaWnd 0 rap.rxaStart rap _ _ _ _ hw.start_lt hloop
  have hres := hok
  unfold ampduRxFlushUpto at hres
  rw [hloop] at hres
  dsimp only at hres
  -- moving the frames up changes neither the age nor the start
  have hmove : ∀ rap2, ampduRxMoveup rap1 i1 = .ok rap2 → rap2.rxaAge = rap1.rxaAge := by
    intro rap2 h2
    unfold ampduRxMoveup at h2
    by_cases hq1 : rap1.rxaQframes ≠ 0
    · rw [if_pos hq1] at h2
      rcases hl : ampduRxMoveupLoop i1 (rap1.rxaWnd - (i1 + 1)) (i1 + 1) rap1.rxaQframes rap1.rxaMq with f | ⟨n, mq⟩
      · rw [hl] at h2
        cases h2
      · rw [hl] at h2
        dsimp only at h2
        by_cases hn : n = 0
        · rw [if_pos hn] at h2
          cases h2
          rfl
        · rw [if_neg hn] at h2
          cases h2
    · rw [if_neg hq1] at h2
      cases h2
      rfl
  cases h2 : ampduRxMoveup rap1 i1 with
  | error f =>
    rw [h2] at hres
    cases hres
  | ok rap2 =>
    rw [h2] at hres
    obtain ⟨hrap, -⟩ := Prod.mk.inj (Except.ok.inj hres)
    have hsame : i = i1 := by
      have hstart : rap'.rxaStart = q := by rw [← hrap]
      have hwnd : rap.rxaWnd ≤ 64 := hw.wnd_le
      have hile := hadv.le_wnd
      rw [hadv.start, hq] at hstart
      simp only [seqAdd] at hstart
      omega
    refine ⟨rap', i, hok, hadv, hw', ?_, hstop, fun j hj => ?_⟩
    · rw [← hrap]
      exact (hmove rap2 h2).trans (bare_age hbare)
    · exact hpasses j (Nat.zero_le _) (hsame ▸ hj)

/-- What moving the window to a frame behind it leaves; `pre` is dispatched. -/
structure Moved (rap rap1 : RxAmpdu) (rxseq : Nat) (pre : List Mbuf) : Prop where
  window : Window rap1
  same : SameSession rap rap1
  age : rap1.rxaAge = rap.rxaAge
  lt : seqSub rxseq rap1.rxaStart < rap1.rxaWnd
  held : held rap = pre ++ held rap1
  marked : pre.map ampduDispatch = pre
  slot : rap1.rxaMq (seqSub rxseq rap1.rxaStart) = []
  head : seqSub rxseq rap1.rxaStart = 0 ↔ ReachesHead rap (seqSub rxseq rap.rxaStart)
  empty : seqSub rxseq rap1.rxaStart = 0 → rap1.rxaQframes = 0
  gap : rap1.rxaQframes ≠ 0 ↔ StaysBehindGap rap (seqSub rxseq rap.rxaStart)

theorem move_once (hw : Window rap) (hpos : 0 < rap.rxaWnd) (hrx : rxseq < 4096)
    (hlo : rap.rxaWnd ≤ seqSub rxseq rap.rxaStart) (hhi : seqSub rxseq rap.rxaStart < 2048) :
    ∃ rap' i, ampduRxFlushUpto rap (seqSub rxseq (rap.rxaWnd - 1)) = .ok (rap', dispatched rap.rxaMq 0 i) ∧
      Advanced rap rap' i ∧ Window rap' ∧ rap'.rxaAge = rap.rxaAge ∧
      seqSub rxseq rap'.rxaStart = seqSub rxseq rap.rxaStart - i ∧
      (i < rap.rxaWnd → seqSub rxseq rap.rxaStart - (rap.rxaWnd - 1) ≤ i ∧ rap.rxaMq i = []) ∧
      ∀ j < i, rap.rxaMq j ≠ [] ∨ j < seqSub rxseq rap.rxaStart - (rap.rxaWnd - 1) := by
  have hlt := hw.start_lt
  have hwnd : rap.rxaWnd ≤ 64 := hw.wnd_le
  have hbefore : ∀ j ≤ 64, seqBaBefore (seqAdd rap.rxaStart j) (seqSub rxseq (rap.rxaWnd - 1)) ↔
      j < seqSub rxseq rap.rxaStart - (rap.rxaWnd - 1) := by
    intro j hj
    simp only [seqSub, seqAdd, seqBaBefore] at hlo hhi ⊢
    omega
  have hfirst : seqBaBefore rap.rxaStart (seqSub rxseq (rap.rxaWnd - 1)) := by
    simp only [seqSub, seqBaBefore] at hlo hhi ⊢
    omega
  obtain ⟨rap', i, hok, hadv, hw', hage, hstop, hpass⟩ := flushUpto_stops hw hpos hfirst
  have hile := hadv.le_wnd
  refine ⟨rap', i, hok, hadv, hw', hage, ?_, fun hi => ⟨?_, ?_⟩, fun j hj => ?_⟩
  · rw [hadv.start]
    simp only [seqSub, seqAdd] at hlo hhi ⊢
    omega
  · have hnot := hstop hi
    rw [hbefore i (by omega)] at hnot
    omega
  · have hslot := hw'.slot0
    rw [hadv.mq, shift, if_pos (by omega), Nat.zero_add] at hslot
    exact hslot
  · exact (hpass j hj).imp id (hbefore j (by omega)).mp

theorem Advanced.qframes_zero {rap' : RxAmpdu} (h : Advanced rap rap' rap.rxaWnd) : rap'.rxaQframes = 0 := by
  refine h.acc.qframes_zero fun j _ => ?_
  rw [h.mq, shift, if_neg (by omega)]

theorem Moved.once {rap1 : RxAmpdu} {i : Nat} (hw : Window rap) (hw1 : Window rap1) (hadv : Advanced rap rap1 i)
    (hage : rap1.rxaAge = rap.rxaAge) (hlo : rap.rxaWnd ≤ seqSub rxseq rap.rxaStart)
    (hoff : seqSub rxseq rap1.rxaStart = seqSub rxseq rap.rxaStart - i)
    (hstop : i < rap.rxaWnd → seqSub rxseq rap.rxaStart - (rap.rxaWnd - 1) ≤ i ∧ rap.rxaMq i = [])
    (hpass : ∀ j < i, rap.rxaMq j ≠ [] ∨ j < seqSub rxseq rap.rxaStart - (rap.rxaWnd - 1))
    (hin : seqSub rxseq rap.rxaStart - i < rap.rxaWnd) : Moved rap rap1 rxseq (dispatched rap.rxaMq 0 i) where
  window := hw1
  same := hadv.same
  age := hage
  lt := by
    rw [hoff, hadv.same.wnd]
    exact hin
  held := hadv.held
  marked := dispatched_mark _ _ _
  slot := by
    have hiw := hadv.le_wnd
    rw [hoff, hadv.mq, shift, if_neg (by omega)]
  head := by
    have hi := hadv.pos
    have hiw := hadv.le_wnd
    rw [hoff]
    constructor
    · intro hzero
      refine .inr ⟨by omega, fun j hj hjw => ?_⟩
      exact (hpass j (by omega)).resolve_right (by omega)
    · rintro (hone | ⟨heq, hfull⟩)
      · omega
      · by_contra hne
        exact hfull i hi (by omega) (hstop (by omega)).2
  empty := by
    have hiw := hadv.le_wnd
    rw [hoff]
    intro hzero
    obtain rfl : i = rap.rxaWnd := by omega
    exact hadv.qframes_zero
  gap := by
    constructor
    · intro hq
      have hheld : ∃ t, rap1.rxaMq t ≠ [] := by
        by_contra hall
        exact hq (hw1.qframes_zero fun t _ => not_not.mp fun ht => hall ⟨t, ht⟩)
      obtain ⟨t, ht⟩ := hheld
      have ht0 : t ≠ 0 := fun h0 => ht (h0 ▸ hw1.slot0)
      rw [hadv.mq, shift] at ht
      by_cases hlt : t + i < rap.rxaWnd
      · rw [if_pos hlt] at ht
        obtain ⟨hd, hempty⟩ := hstop (by omega)
        exact ⟨i, t + i, hd, by omega, hempty, ht⟩
      · rw [if_neg hlt] at ht
        exact absurd rfl ht
    · rintro ⟨a, b, hd, hab, hempty, hfull⟩ hq
      have hb : b < rap.rxaWnd := by
        by_contra hge
        exact hfull (hw.beyond b (by omega))
      have ha : i ≤ a := by
        by_contra hlt
        exact (hpass a (by omega)).elim (fun h => h hempty) fun h => by omega
      have hslot := hw1.empty hq (b - i)
      rw [hadv.mq, shift, if_pos (by omega), Nat.sub_add_cancel (by omega)] at hslot
      exact hfull hslot

theorem Moved.again {rap1 rap2 : RxAmpdu} {pre : List Mbuf} (hw : Window rap)
    (hadv : Advanced rap rap1 rap.rxaWnd) (hage : rap1.rxaAge = rap.rxaAge)
    (hoff : seqSub rxseq rap1.rxaStart = seqSub rxseq rap.rxaStart - rap.rxaWnd)
    (hfar : rap.rxaWnd ≤ seqSub rxseq rap.rxaStart - rap.rxaWnd) (h : Moved rap1 rap2 rxseq pre) :
    Moved rap rap2 rxseq (dispatched rap.rxaMq 0 rap.rxaWnd ++ pre) where
  window := h.window
  same := hadv.same.trans h.same
  age := h.age.trans hage
  lt := h.lt
  held := by rw [hadv.held, h.held, List.append_assoc]
  marked := by rw [List.map_append, dispatched_mark, h.marked]
  slot := h.slot
  head := by
    have hpos := hadv.pos
    have hempty : ∀ j, rap1.rxaMq j = [] := fun j => by rw [hadv.mq, shift, if_neg (by omega)]
    rw [h.head]
    unfold ReachesHead
    rw [hadv.same.wnd, hoff]
    constructor
    · rintro (hone | ⟨_, hfull⟩)
      · exact .inl hone
      · by_cases hone : rap.rxaWnd = 1
        · exact .inl hone
        · exact absurd (hempty 1) (hfull 1 (by decide) (by omega))
    · rintro (hone | ⟨heq, _⟩)
      · exact .inl hone
      · omega
  empty := h.empty
  gap := by
    rw [h.gap]
    constructor
    · rintro ⟨a, b, _, _, _, hfull⟩
      exact absurd (by rw [hadv.mq, shift, if_neg (by omega)]) hfull
    · rintro ⟨a, b, hd, hab, _, hfull⟩
      exact absurd (hw.beyond b (by omega)) hfull

/-- **A frame behind the window** is looked at again when the window has been moved. -/
theorem move_spec (hrx : rxseq < 4096) : ∀ (fuel : Nat) (rap : RxAmpdu), Window rap → 0 < rap.rxaWnd →
    rap.rxaWnd ≤ seqSub rxseq rap.rxaStart → seqSub rxseq rap.rxaStart < 2048 → seqSub rxseq rap.rxaStart < fuel →
    ∃ rap1 pre fuel1, Moved rap rap1 rxseq pre ∧ ∀ clk m rxs rap' v out,
      reorderAgain clk rxseq m rxs (fuel1 + 1) rap1 = .ok (rap', v, out) →
      reorderAgain clk rxseq m rxs fuel rap = .ok (rap', v, pre ++ out)
  | 0, _, _, _, _, _, hf => absurd hf (Nat.not_lt_zero _)
  | fuel + 1, rap, hw, hpos, hlo, hhi, hf => by
    obtain ⟨rap1, i, hok, hadv, hw1, hage, hoff, hstop, hpass⟩ := move_once hw hpos hrx hlo hhi
    have hi := hadv.pos
    have hiw := hadv.le_wnd
    have hne : rxseq ≠ rap.rxaStart := by
      have := hw.start_lt
      rintro rfl
      simp only [seqSub] at hlo
      omega
    have hagain : ∀ clk m rxs rap' v out, reorderAgain clk rxseq m rxs fuel rap1 = .ok (rap', v, out) →
        reorderAgain clk rxseq m rxs (fuel + 1) rap = .ok (rap', v, dispatched rap.rxaMq 0 i ++ out) := by
      intro clk m rxs rap' v out hrec
      have hrange : seqSub rxseq rap.rxaStart < IEEE80211_SEQ_BA_RANGE := hhi
      unfold reorderAgain
      dsimp only
      rw [if_neg hne, if_neg (by omega), if_pos hrange, hok]
      dsimp only
      rw [hrec]
    by_cases hin : seqSub rxseq rap.rxaStart - i < rap.rxaWnd
    · -- the frame is in the window now
      obtain ⟨fuel1, rfl⟩ := Nat.exists_eq_succ_of_ne_zero (show fuel ≠ 0 by omega)
      exact ⟨rap1, _, fuel1, .once hw hw1 hadv hage hlo hoff hstop hpass hin, hagain⟩
    · obtain rfl : i = rap.rxaWnd := by
        by_contra hlt
        have := (hstop (by omega)).1
        omega
      obtain ⟨rap2, pre, fuel1, hmoved, hok2⟩ := move_spec hrx fuel rap1 hw1 (by rw [hadv.same.wnd]; exact hpos)
        (by rw [hoff, hadv.same.wnd]; omega) (by rw [hoff]; omega) (by rw [hoff]; omega)
      refine ⟨rap2, _, fuel1, .again hw hadv hage hoff (by omega) hmoved, fun clk m rxs rap' v out hrec => ?_⟩
      rw [List.append_assoc]
      exact hagain _ _ _ _ _ _ (hok2 _ _ _ _ _ _ hrec)

end Steps

/-- The moved window treats the frame as the one before it. -/
theorem Treated.of_moved {b : Bool} {rap rap1 rap' : RxAmpdu} {rxseq : Nat} {pre : List Mbuf} {m : Mbuf} {v : Verdict}
    {out : List Mbuf} (hmoved : Moved rap rap1 rxseq pre) (h : Treated b ⟨rap1, m, rap', passedUp m v out⟩) :
    Treated b ⟨rap, m, rap', passedUp m v (pre ++ out)⟩ := by
  have hup : (held rap' ++ (passedUp m v (pre ++ out)).map ampduDispatch).Perm
      (pre ++ (held rap' ++ (passedUp m v out).map ampduDispatch)) := by
    have hsplit : (passedUp m v (pre ++ out)).map ampduDispatch = pre ++ (passedUp m v out).map ampduDispatch := by
      unfold passedUp
      by_cases hv : v = .process
      · rw [if_pos hv, if_pos hv, List.append_assoc, List.map_append, hmoved.marked]
      · rw [if_neg hv, if_neg hv, List.map_append, hmoved.marked]
    rw [hsplit, ← List.append_assoc, ← List.append_assoc]
    exact List.perm_append_comm.append_right _
  cases b with
  | true =>
    have hk : Call.Kept ⟨rap1, m, rap', passedUp m v out⟩ := h
    show Call.Kept _
    unfold Call.Kept at hk ⊢
    dsimp only at hk ⊢
    rw [hmoved.held]
    exact (hup.trans (hk.append_left pre)).trans List.perm_middle
  | false =>
    have hd : Call.Discarded ⟨rap1, m, rap', passedUp m v out⟩ := h
    show Call.Discarded _
    unfold Call.Discarded at hd ⊢
    dsimp only at hd ⊢
    rw [hmoved.held]
    exact hup.trans (hd.append_left pre)

/-! ## The subframes of an A-MSDU -/

section Burst

variable {σ : Type} {hdr m : Mbuf} {clk : Clock} {ni : Node} {rest : List (Clock × Mbuf)} {rap : RxAmpdu}

theorem SubframeOf.tid (h : SubframeOf hdr m) : m.tid = hdr.tid := by
  unfold Mbuf.tid
  rw [h.qos0]

theorem SubframeOf.seq (h : SubframeOf hdr m) : m.seq = hdr.seq := by
  unfold Mbuf.seq
  rw [h.iSeq]

theorem SubframeOf.frag (h : SubframeOf hdr m) : m.frag = hdr.frag := by
  unfold Mbuf.frag
  rw [h.iSeq]

theorem SubframeOf.isMulticast (h : SubframeOf hdr m) : m.isMulticast = hdr.isMulticast := by
  unfold Mbuf.isMulticast
  rw [h.iAddr1]

theorem subframeCalls_cons (hht : ni.niHt = true) (hsub : SubframeOf hdr m) {rap' : RxAmpdu} {v : Verdict}
    {out : List Mbuf} (hok : ieee80211AmpduReorder true clk (ni.niRxAmpdu hdr.tid) m m.rxs = .ok (rap', v, out))
    {calls : List Call}
    (hrest : subframeCalls { ni with niRxAmpdu := Function.update ni.niRxAmpdu hdr.tid rap' } rest = .ok calls) :
    subframeCalls ni ((clk, m) :: rest) = .ok (⟨ni.niRxAmpdu hdr.tid, m, rap', passedUp m v out⟩ :: calls) := by
  have hsession : (Op.reorder clk m m.rxs).session ni.niHt (ni.niRxAmpdu m.tid) = .ok (rap', some v, out) := by
    unfold Op.session
    dsimp only
    rw [hht, hsub.tid, hok]
    rfl
  have hup : (Op.reorder clk m m.rxs).passedUp (some v) out = passedUp m v out := by
    cases v with
    | process => rfl
    | consumed => rfl
  have htid : (Op.reorder clk m m.rxs).tid = hdr.tid := hsub.tid
  unfold subframeCalls
  rw [Op.apply_ok hsession, htid]
  dsimp only
  rw [hrest, hup, hsub.tid, Function.update_self]

/-- A call keeps what relates the session and an abstract state. -/
def StepsAs (hdr : Mbuf) (R : RxAmpdu → σ → Prop) (takes : σ → Clock → Bool) (next : σ → Clock → σ) : Prop :=
  ∀ rap s clk m, R rap s → SubframeOf hdr m →
    ∃ rap' v out, ieee80211AmpduReorder true clk rap m m.rxs = .ok (rap', v, out) ∧
      Treated (takes s clk) ⟨rap, m, rap', passedUp m v out⟩ ∧
      (ieee80211CheckRxseqAmsduMore m.rxs = false → R rap' (next s clk))

variable {R : RxAmpdu → σ → Prop} {takes : σ → Clock → Bool} {next : σ → Clock → σ}

/-- **Runs**: the subframes are treated as in the abstract states. -/
theorem calls_of_steps (hsteps : StepsAs hdr R takes next) {subs : List (Clock × Mbuf)} (hsubs : Subframes hdr subs) :
    ∀ (ni : Node) (s : σ), ni.niHt = true → R (ni.niRxAmpdu hdr.tid) s →
      ∃ calls, subframeCalls ni subs = .ok calls ∧
        List.Forall₂ Treated (outcomes takes next s (subs.map Prod.fst)) calls := by
  induction hsubs with
  | @last clk m hsub hend =>
    intro ni s hht hR
    obtain ⟨rap', v, out, hok, htreated, -⟩ := hsteps _ s clk m hR hsub
    exact ⟨_, subframeCalls_cons hht hsub hok rfl, .cons htreated .nil⟩
  | @more clk m rest hsub hmore _ ih =>
    intro ni s hht hR
    obtain ⟨rap', v, out, hok, htreated, hnext⟩ := hsteps _ s clk m hR hsub
    obtain ⟨calls, hcalls, hall⟩ := ih { ni with niRxAmpdu := Function.update ni.niRxAmpdu hdr.tid rap' } (next s clk) hht
      (by
        dsimp only
        rw [Function.update_self]
        exact hnext hmore)
    exact ⟨_, subframeCalls_cons hht hsub hok hcalls, .cons htreated hall⟩

/-- A first subframe that is treated on its own, and the others. -/
theorem calls_first (hsteps : StepsAs hdr R takes next) {subs : List (Clock × Mbuf)} (hsubs : Subframes hdr subs)
    (hht : ni.niHt = true) (first : Clock → Bool) (s : Clock → σ)
    (hfirst : ∀ clk m, SubframeOf hdr m → ∃ rap' v out,
      ieee80211AmpduReorder true clk (ni.niRxAmpdu hdr.tid) m m.rxs = .ok (rap', v, out) ∧
        Treated (first clk) ⟨ni.niRxAmpdu hdr.tid, m, rap', passedUp m v out⟩ ∧
        (ieee80211CheckRxseqAmsduMore m.rxs = false → R rap' (s clk))) :
    ∃ calls clk clks, subframeCalls ni subs = .ok calls ∧ subs.map Prod.fst = clk :: clks ∧
      List.Forall₂ Treated (first clk :: outcomes takes next (s clk) clks) calls := by
  cases hsubs with
  | @last clk m hsub hend =>
    obtain ⟨rap', v, out, hok, htreated, -⟩ := hfirst clk m hsub
    exact ⟨_, clk, [], subframeCalls_cons hht hsub hok rfl, rfl, .cons htreated .nil⟩
  | @more clk m rest hsub hmore hrest =>
    obtain ⟨rap', v, out, hok, htreated, hnext⟩ := hfirst clk m hsub
    obtain ⟨calls, hcalls, hall⟩ := calls_of_steps hsteps hrest
      { ni with niRxAmpdu := Function.update ni.niRxAmpdu hdr.tid rap' } (s clk) hht
      (by
        dsimp only
        rw [Function.update_self]
        exact hnext hmore)
    exact ⟨_, clk, _, subframeCalls_cons hht hsub hok hcalls, rfl, .cons htreated hall⟩

/-- Frames that the session takes: unicast QoS data that is not fragmented. -/
structure ForSession (hdr : Mbuf) : Prop where
  qos : hdr.iFc0 = IEEE80211_FC0_QOSDATA
  unicast : hdr.isMulticast = false
  unfragmented : hdr.frag = 0

theorem reorder_eq (hsub : SubframeOf hdr m) (hfor : ForSession hdr) (hxchg : rap.xchgpend = true) :
    ieee80211AmpduReorder true clk rap m m.rxs =
      reorderAgain clk hdr.seq m m.rxs IEEE80211_SEQ_RANGE (rap.entered hdr.seq) := by
  unfold ieee80211AmpduReorder RxAmpdu.entered
  rw [if_neg (not_not_intro hsub.fromInput), if_neg (by decide), if_neg (not_not_intro (hsub.iFc0.trans hfor.qos)),
    if_neg (by rw [hsub.isMulticast, hfor.unicast]; decide), if_neg (by rw [hxchg]; decide),
    if_neg (by rw [hsub.frag]; exact not_not_intro hfor.unfragmented), hsub.seq]

theorem entered_of_not_waitrx (h : rap.waitrx = false) (rxseq : Nat) : rap.entered rxseq = rap := by
  unfold RxAmpdu.entered
  rw [h]
  rfl

theorem held_entered (rap : RxAmpdu) (rxseq : Nat) : held (rap.entered rxseq) = held rap := by
  unfold RxAmpdu.entered
  by_cases hwait : rap.waitrx = true
  · rw [if_pos hwait]
    rfl
  · rw [if_neg hwait]

theorem Treated.of_entered {b : Bool} {rxseq : Nat} {rap' : RxAmpdu} {up : List Mbuf}
    (h : Treated b ⟨rap.entered rxseq, m, rap', up⟩) : Treated b ⟨rap, m, rap', up⟩ := by
  unfold Treated Call.Kept Call.Discarded at h ⊢
  rw [held_entered] at h
  exact h

structure Entered (rap : RxAmpdu) (rxseq : Nat) : Prop where
  window : Window (rap.entered rxseq)
  wnd_pos : 0 < (rap.entered rxseq).rxaWnd
  xchgpend : (rap.entered rxseq).xchgpend = true
  waitrx : (rap.entered rxseq).waitrx = false

theorem Inv.entered (h : Inv rap) (hxchg : rap.xchgpend = true) {rxseq : Nat} (hrx : rxseq < 4096) :
    Entered rap rxseq := by
  have hrun : rap.running = true := h.xchg ▸ hxchg
  by_cases hwait : rap.waitrx = true
  · have heq : rap.entered rxseq = { rap with waitrx := false, rxaStart := rxseq } := if_pos hwait
    have hempty := h.waiting hwait
    refine ⟨?_, ?_, ?_, ?_⟩
    · rw [heq]
      exact Window.of_empty h.wnd_le hrx (h.qframes_zero fun i _ => hempty i) (h.qbytes_zero fun i _ => hempty i) hempty
    · rw [heq]
      exact h.wnd_pos hrun
    · rw [heq]
      exact hxchg
    · rw [heq]
  · rw [Bool.not_eq_true] at hwait
    have heq := entered_of_not_waitrx hwait rxseq
    refine ⟨?_, ?_, ?_, ?_⟩
    · rw [heq]
      exact h.toWindow
    · rw [heq]
      exact h.wnd_pos hrun
    · rw [heq]
      exact hxchg
    · rw [heq]
      exact hwait

/-! ### Frames that the session does not take -/

theorem steps_passed : StepsAs hdr
    (fun rap (_ : Unit) => hdr.iFc0 ≠ IEEE80211_FC0_QOSDATA ∨ hdr.isMulticast = true ∨ rap.xchgpend = false)
    (fun _ _ => true) fun _ _ => () := by
  intro rap s clk m hR hsub
  have hok : ieee80211AmpduReorder true clk rap m m.rxs = .ok (rap, .process, []) := by
    unfold ieee80211AmpduReorder
    rw [if_neg (not_not_intro hsub.fromInput), if_neg (by decide), hsub.iFc0, hsub.isMulticast]
    by_cases hqos : hdr.iFc0 ≠ IEEE80211_FC0_QOSDATA
    · rw [if_pos hqos]
    · rw [if_neg hqos]
      by_cases hmulti : hdr.isMulticast = true
      · rw [if_pos hmulti]
      · rw [if_neg hmulti, if_pos ((hR.resolve_left hqos).resolve_left hmulti)]
  refine ⟨rap, .process, [], hok, ?_, fun _ => hR⟩
  unfold Treated Call.Kept passedUp
  rw [if_pos rfl, if_pos rfl]
  exact List.perm_append_singleton _ _

theorem steps_fragment (hqos : hdr.iFc0 = IEEE80211_FC0_QOSDATA) (huni : hdr.isMulticast = false)
    (hfrag : hdr.frag ≠ 0) :
    StepsAs hdr (fun rap (_ : Unit) => rap.xchgpend = true) (fun _ _ => false) fun _ _ => () := by
  intro rap s clk m hxchg hsub
  have hok : ieee80211AmpduReorder true clk rap m m.rxs = .ok (rap, .consumed, []) := by
    unfold ieee80211AmpduReorder
    rw [if_neg (not_not_intro hsub.fromInput), if_neg (by decide), hsub.iFc0, hsub.isMulticast, hsub.frag,
      if_neg (not_not_intro hqos), if_neg (by rw [huni]; decide), if_neg (by rw [hxchg]; decide), if_pos hfrag]
  refine ⟨rap, .consumed, [], hok, ?_, fun _ => hxchg⟩
  show Treated false _
  unfold Treated Call.Discarded passedUp
  rw [if_neg (by decide), if_neg (by decide), List.map_nil, List.append_nil]

/-! ### By where the frame is in the window -/

/-- What holds of a session that is about to take a frame. -/
def OnEntry (P : RxAmpdu → Prop) (rxseq : Nat) (rap : RxAmpdu) : Prop := rap.xchgpend = true ∧ P (rap.entered rxseq)

theorem OnEntry.of_not_waitrx {P : RxAmpdu → Prop} (rxseq : Nat) (hwait : rap.waitrx = false)
    (hxchg : rap.xchgpend = true) (h : P rap) : OnEntry P rxseq rap :=
  ⟨hxchg, (entered_of_not_waitrx hwait rxseq).symm ▸ h⟩

theorem steps_head (hfor : ForSession hdr) :
    StepsAs hdr (fun rap (_ : Unit) => OnEntry (AtHead · hdr.seq) hdr.seq rap) (fun _ _ => true) fun _ _ => () := by
  rintro rap s clk m ⟨hxchg, hR⟩ hsub
  obtain ⟨rap', v, out, hok, htreated, hnext⟩ := head_step clk 4095 hR hsub.amsdu
  refine ⟨rap', v, out, (reorder_eq hsub hfor hxchg).trans hok, htreated.of_entered, fun hmore => ?_⟩
  have h' := hnext hmore
  exact .of_not_waitrx hdr.seq h'.waitrx h'.xchgpend h'

theorem steps_behind (hfor : ForSession hdr) :
    StepsAs hdr (fun rap (_ : Unit) => OnEntry (Behind · hdr.seq) hdr.seq rap) (fun _ _ => false) fun _ _ => () := by
  rintro rap s clk m ⟨hxchg, hR⟩ hsub
  obtain ⟨rap', v, out, hok, htreated, rfl⟩ := behind_step clk 4095 m hR
  exact ⟨_, v, out, (reorder_eq hsub hfor hxchg).trans hok, htreated.of_entered, fun _ =>
    .of_not_waitrx hdr.seq hR.waitrx hR.xchgpend hR⟩

theorem steps_inside (hfor : ForSession hdr) :
    StepsAs hdr (fun rap s => OnEntry (fun e => Inside e hdr.seq ∧ spaceAt e hdr.seq = s) hdr.seq rap)
      Space.takes Space.next := by
  rintro rap s clk m ⟨hxchg, hR, rfl⟩ hsub
  obtain ⟨rap', v, out, hok, htreated, hnext⟩ := inside_step clk 4095 hR hsub.seq hsub.amsdu
  refine ⟨rap', v, out, (reorder_eq hsub hfor hxchg).trans hok, htreated.of_entered, fun hmore => ?_⟩
  have h' := hnext hmore
  exact .of_not_waitrx hdr.seq h'.1.waitrx h'.1.xchgpend h'

theorem Subframes.clks_ne_nil {subs : List (Clock × Mbuf)} (h : Subframes hdr subs) : subs.map Prod.fst ≠ [] := by
  cases h with
  | last => exact List.cons_ne_nil _ _
  | more => exact List.cons_ne_nil _ _

/-- Subframes that are treated alike whatever the clock. -/
theorem alike_const {b : Bool} {R : RxAmpdu → Unit → Prop}
    (hsteps : StepsAs hdr R (fun _ _ => b) fun _ _ => ()) {subs : List (Clock × Mbuf)} (hsubs : Subframes hdr subs)
    (hht : ni.niHt = true) (hR : R (ni.niRxAmpdu hdr.tid) ()) :
    ∃ calls, subframeCalls ni subs = .ok calls ∧ Alike calls := by
  obtain ⟨calls, hok, hall⟩ := calls_of_steps hsteps hsubs ni () hht hR
  refine ⟨calls, hok, (alike_iff hall).mpr ?_⟩
  cases b with
  | true => exact .inl (outcomes_const true _)
  | false => exact .inr (outcomes_const false _)

section Window

variable {subs : List (Clock × Mbuf)} (hsubs : Subframes hdr subs) (hht : ni.niHt = true) (hfor : ForSession hdr)
  (hxchg : (ni.niRxAmpdu hdr.tid).xchgpend = true)

include hsubs hht hfor hxchg

theorem inside_alike_iff (hin : Inside ((ni.niRxAmpdu hdr.tid).entered hdr.seq) hdr.seq) :
    ∃ calls, subframeCalls ni subs = .ok calls ∧
      (Alike calls ↔ (spaceAt ((ni.niRxAmpdu hdr.tid).entered hdr.seq) hdr.seq).Fits (subs.map Prod.fst) ∨
        (spaceAt ((ni.niRxAmpdu hdr.tid).entered hdr.seq) hdr.seq).Refuses (subs.map Prod.fst)) := by
  obtain ⟨calls, hok, hall⟩ := calls_of_steps (steps_inside hfor) hsubs ni _ hht ⟨hxchg, hin, rfl⟩
  refine ⟨calls, hok, (alike_iff hall).trans ?_⟩
  rw [Space.outcomes_true_iff, Space.outcomes_false_iff (fun hnone => ?_) hsubs.clks_ne_nil]
  rw [room_of_no_age hin.toWindow hnone]
  decide

variable (hent : Entered (ni.niRxAmpdu hdr.tid) hdr.seq)

include hent

/-- The first frame of the window, before others that are held: one subframe only. -/
theorem run_alike_iff (hstart : hdr.seq = ((ni.niRxAmpdu hdr.tid).entered hdr.seq).rxaStart)
    (hq : ((ni.niRxAmpdu hdr.tid).entered hdr.seq).rxaQframes ≠ 0) :
    ∃ calls, subframeCalls ni subs = .ok calls ∧ (Alike calls ↔ (subs.map Prod.fst).length = 1) := by
  obtain ⟨calls, clk, clks, hok, hclks, hall⟩ := calls_first (steps_behind hfor) hsubs hht
    (fun _ => true) (fun _ => ()) fun clk m hsub => by
      obtain ⟨rap', v, out, hok, htreated, h'⟩ := run_step clk 4095 m hent.window hent.wnd_pos hstart hq hent.xchgpend
        hent.waitrx
      exact ⟨rap', v, out, (reorder_eq hsub hfor hxchg).trans hok, htreated.of_entered, fun _ =>
        .of_not_waitrx hdr.seq h'.waitrx h'.xchgpend h'⟩
  refine ⟨calls, hok, (alike_iff hall).trans ?_⟩
  rw [hclks, List.forall_mem_cons, List.forall_mem_cons]
  cases clks with
  | nil => simp [outcomes]
  | cons clk' clks => simp [outcomes]

theorem move_head_alike {rap1 : RxAmpdu} {pre : List Mbuf} {fuel1 : Nat}
    (hmoved : Moved ((ni.niRxAmpdu hdr.tid).entered hdr.seq) rap1 hdr.seq pre)
    (hagain : ∀ clk m rxs rap' v out, reorderAgain clk hdr.seq m rxs (fuel1 + 1) rap1 = .ok (rap', v, out) →
      reorderAgain clk hdr.seq m rxs IEEE80211_SEQ_RANGE ((ni.niRxAmpdu hdr.tid).entered hdr.seq) =
        .ok (rap', v, pre ++ out))
    (hhead : seqSub hdr.seq rap1.rxaStart = 0) : ∃ calls, subframeCalls ni subs = .ok calls ∧ Alike calls := by
  have hat : AtHead rap1 hdr.seq := by
    refine ⟨hmoved.window, ?_, hmoved.empty hhead, ?_, ?_⟩
    · have hlt := hmoved.window.start_lt
      have hrx := hdr.seq_lt
      simp only [seqSub] at hhead
      omega
    · rw [hmoved.same.xchgpend]
      exact hent.xchgpend
    · rw [hmoved.same.waitrx]
      exact hent.waitrx
  obtain ⟨calls, clk, clks, hok, -, hall⟩ := calls_first (steps_head hfor) hsubs hht
    (fun _ => true) (fun _ => ()) fun clk m hsub => by
      obtain ⟨rap', v, out, hok, htreated, hnext⟩ := head_step clk fuel1 hat hsub.amsdu
      refine ⟨rap', v, pre ++ out, (reorder_eq hsub hfor hxchg).trans (hagain _ _ _ _ _ _ hok),
        (htreated.of_moved hmoved).of_entered, fun hmore => ?_⟩
      have h' := hnext hmore
      exact .of_not_waitrx hdr.seq h'.waitrx h'.xchgpend h'
  exact ⟨calls, hok, (alike_iff hall).mpr (.inl (List.forall_mem_cons.mpr ⟨rfl, outcomes_const true _⟩))⟩

/-- A frame behind the window that comes to an empty slot. -/
theorem move_inside_alike_iff {rap1 : RxAmpdu} {pre : List Mbuf} {fuel1 : Nat}
    (hmoved : Moved ((ni.niRxAmpdu hdr.tid).entered hdr.seq) rap1 hdr.seq pre)
    (hagain : ∀ clk m rxs rap' v out, reorderAgain clk hdr.seq m rxs (fuel1 + 1) rap1 = .ok (rap', v, out) →
      reorderAgain clk hdr.seq m rxs IEEE80211_SEQ_RANGE ((ni.niRxAmpdu hdr.tid).entered hdr.seq) =
        .ok (rap', v, pre ++ out))
    (hhead : seqSub hdr.seq rap1.rxaStart ≠ 0) :
    ∃ calls, subframeCalls ni subs = .ok calls ∧ (Alike calls ↔ (spaceAt rap1 hdr.seq).Fits (subs.map Prod.fst)) := by
  have hin : Inside rap1 hdr.seq := by
    refine ⟨hmoved.window, fun heq => hhead ?_, hmoved.lt, ?_, ?_⟩
    · have hlt := hmoved.window.start_lt
      simp only [seqSub]
      omega
    · rw [hmoved.same.xchgpend]
      exact hent.xchgpend
    · rw [hmoved.same.waitrx]
      exact hent.waitrx
  obtain ⟨calls, clk, clks, hok, hclks, hall⟩ := calls_first (steps_inside hfor) hsubs hht
    (fun clk => (spaceAt rap1 hdr.seq).takes clk) (fun clk => (spaceAt rap1 hdr.seq).next clk) fun clk m hsub => by
      obtain ⟨rap', v, out, hok, htreated, hnext⟩ := inside_step clk fuel1 hin hsub.seq hsub.amsdu
      refine ⟨rap', v, pre ++ out, (reorder_eq hsub hfor hxchg).trans (hagain _ _ _ _ _ _ hok),
        (htreated.of_moved hmoved).of_entered, fun hmore => ?_⟩
      have h' := hnext hmore
      exact .of_not_waitrx hdr.seq h'.1.waitrx h'.1.xchgpend h'
  have htakes : (spaceAt rap1 hdr.seq).takes clk = true := by
    unfold Space.takes spaceAt
    dsimp only
    rw [hmoved.slot, roomOf_nil]
    simp [mqMaxlen]
  refine ⟨calls, hok, (alike_iff hall).trans ?_⟩
  rw [hclks, ← Space.outcomes_true_iff]
  refine or_iff_left fun hfalse => ?_
  have hno := hfalse _ List.mem_cons_self
  rw [htakes] at hno
  cases hno

/-- A frame behind the window: it comes to the head, or to an empty slot. -/
theorem move_alike_iff
    (hlo : ((ni.niRxAmpdu hdr.tid).entered hdr.seq).rxaWnd ≤
      seqSub hdr.seq ((ni.niRxAmpdu hdr.tid).entered hdr.seq).rxaStart)
    (hhi : seqSub hdr.seq ((ni.niRxAmpdu hdr.tid).entered hdr.seq).rxaStart < 2048) :
    ∃ calls, subframeCalls ni subs = .ok calls ∧
      (Alike calls ↔ WindowAlike ((ni.niRxAmpdu hdr.tid).entered hdr.seq) hdr.seq (subs.map Prod.fst)) := by
  obtain ⟨rap1, pre, fuel1, hmoved, hagain⟩ := move_spec hdr.seq_lt IEEE80211_SEQ_RANGE _ hent.window hent.wnd_pos hlo hhi
    (Nat.mod_lt _ (by decide))
  have hpos := hent.wnd_pos
  by_cases hhead : seqSub hdr.seq rap1.rxaStart = 0
  · obtain ⟨calls, hok, halike⟩ := move_head_alike hsubs hht hfor hxchg hent hmoved hagain hhead
    refine ⟨calls, hok, iff_of_true halike ⟨fun h => by omega, fun _ h => by omega, fun _ _ => ?_⟩⟩
    exact .inl (hmoved.head.mp hhead)
  · obtain ⟨calls, hok, halike⟩ := move_inside_alike_iff hsubs hht hfor hxchg hent hmoved hagain hhead
    refine ⟨calls, hok, halike.trans ?_⟩
    have hage : ageOf rap1 =
        if rap1.rxaQframes = 0 then none else some ((ni.niRxAmpdu hdr.tid).entered hdr.seq).rxaAge := by
      unfold ageOf
      rw [hmoved.age]
    unfold spaceAt
    rw [hmoved.slot, roomOf_nil, hage]
    by_cases hq : rap1.rxaQframes = 0
    · have hgap := fun h => hmoved.gap.mpr h hq
      rw [if_pos hq]
      exact ⟨fun h => ⟨fun h0 => by omega, fun _ hlt => by omega, fun _ _ => .inr ⟨fun hg => absurd hg hgap, fun _ => h⟩⟩,
        fun h => ((h.2.2 hlo hhi).resolve_left fun hr => hhead (hmoved.head.mpr hr)).2 hgap⟩
    · have hgap := hmoved.gap.mp hq
      rw [if_neg hq]
      exact ⟨fun h => ⟨fun h0 => by omega, fun _ hlt => by omega, fun _ _ => .inr ⟨fun _ => h, fun hg => absurd hgap hg⟩⟩,
        fun h => ((h.2.2 hlo hhi).resolve_left fun hr => hhead (hmoved.head.mpr hr)).1 hgap⟩

/-- **By where the frame is in the window.** -/
theorem window_alike_iff :
    ∃ calls, subframeCalls ni subs = .ok calls ∧
      (Alike calls ↔ WindowAlike ((ni.niRxAmpdu hdr.tid).entered hdr.seq) hdr.seq (subs.map Prod.fst)) := by
  have hpos := hent.wnd_pos
  have hlt := hent.window.start_lt
  have hrx := hdr.seq_lt
  have hwnd : ((ni.niRxAmpdu hdr.tid).entered hdr.seq).rxaWnd ≤ 64 := hent.window.wnd_le
  by_cases hstart : hdr.seq = ((ni.niRxAmpdu hdr.tid).entered hdr.seq).rxaStart
  · have hoff : seqSub hdr.seq ((ni.niRxAmpdu hdr.tid).entered hdr.seq).rxaStart = 0 := by
      simp only [seqSub]
      omega
    by_cases hq : ((ni.niRxAmpdu hdr.tid).entered hdr.seq).rxaQframes = 0
    · obtain ⟨calls, hok, halike⟩ := alike_const (steps_head hfor) hsubs hht
        ⟨hxchg, ⟨hent.window, hstart, hq, hent.xchgpend, hent.waitrx⟩⟩
      exact ⟨calls, hok, iff_of_true halike ⟨fun _ => .inl hq, fun h => by omega, fun h => by omega⟩⟩
    · obtain ⟨calls, hok, halike⟩ := run_alike_iff hsubs hht hfor hxchg hent hstart hq
      exact ⟨calls, hok, halike.trans ⟨fun h => ⟨fun _ => .inr h, fun h => by omega, fun h => by omega⟩,
        fun h => (h.1 hoff).resolve_left hq⟩⟩
  · have hoff : 0 < seqSub hdr.seq ((ni.niRxAmpdu hdr.tid).entered hdr.seq).rxaStart := by
      simp only [seqSub]
      omega
    by_cases hin : seqSub hdr.seq ((ni.niRxAmpdu hdr.tid).entered hdr.seq).rxaStart <
        ((ni.niRxAmpdu hdr.tid).entered hdr.seq).rxaWnd
    · obtain ⟨calls, hok, halike⟩ := inside_alike_iff hsubs hht hfor hxchg
        ⟨hent.window, hstart, hin, hent.xchgpend, hent.waitrx⟩
      exact ⟨calls, hok, halike.trans ⟨fun h => ⟨fun h0 => by omega, fun _ _ => h, fun h => by omega⟩,
        fun h => h.2.1 hoff hin⟩⟩
    · by_cases hnear : seqSub hdr.seq ((ni.niRxAmpdu hdr.tid).entered hdr.seq).rxaStart < 2048
      · exact move_alike_iff hsubs hht hfor hxchg hent (by omega) hnear
      · obtain ⟨calls, hok, halike⟩ := alike_const (steps_behind hfor) hsubs hht
          ⟨hxchg, ⟨hent.window, by omega, hent.xchgpend, hent.waitrx⟩⟩
        exact ⟨calls, hok, iff_of_true halike ⟨fun h0 => by omega, fun _ h => by omega, fun _ h => absurd h hnear⟩⟩

end Window

/-- **The subframes of an A-MSDU are treated alike** in every reachable session, exactly when `AlikeWhen` says so. -/
theorem subframes_alike_iff (hr : NodeReachable ni) {subs : List (Clock × Mbuf)} (hsubs : Subframes hdr subs) :
    ∃ calls, subframeCalls ni subs = .ok calls ∧
      (Alike calls ↔ AlikeWhen (ni.niRxAmpdu hdr.tid) hdr (subs.map Prod.fst)) := by
  have hinv := reachable_inv hr
  by_cases hpassed : hdr.iFc0 ≠ IEEE80211_FC0_QOSDATA ∨ hdr.isMulticast = true ∨
      (ni.niRxAmpdu hdr.tid).xchgpend = false
  · obtain ⟨calls, hok, halike⟩ := alike_const steps_passed hsubs hinv.ht hpassed
    refine ⟨calls, hok, iff_of_true halike ?_⟩
    rcases hpassed with h | h | h
    · exact .inl h
    · exact .inr (.inl h)
    · exact .inr (.inr (.inl h))
  · rw [not_or, not_or, not_not, Bool.not_eq_true, Bool.not_eq_false] at hpassed
    obtain ⟨hqos, huni, hxchg⟩ := hpassed
    by_cases hfrag : hdr.frag ≠ 0
    · obtain ⟨calls, hok, halike⟩ := alike_const (steps_fragment hqos huni hfrag) hsubs hinv.ht hxchg
      exact ⟨calls, hok, iff_of_true halike (.inr (.inr (.inr (.inl hfrag))))⟩
    · obtain ⟨calls, hok, halike⟩ := window_alike_iff hsubs hinv.ht ⟨hqos, huni, not_not.mp hfrag⟩ hxchg
        ((hinv.sessions hdr.tid).entered hxchg hdr.seq_lt)
      refine ⟨calls, hok, halike.trans ⟨fun h => .inr (.inr (.inr (.inr h))), ?_⟩⟩
      rintro (h | h | h | h | h)
      · exact absurd hqos h
      · rw [huni] at h
        cases h
      · rw [hxchg] at h
        cases h
      · exact absurd h hfrag
      · exact h

end Burst

def twoSubframes : List (Clock × Mbuf) :=
  [(⟨0, 500⟩, qosMbuf 100 (some ⟨IEEE80211_RX_F_AMSDU ||| IEEE80211_RX_F_AMSDU_MORE⟩)),
    (⟨0, 500⟩, qosMbuf 100 (some ⟨IEEE80211_RX_F_AMSDU⟩))]

theorem twoSubframes_subframes : Subframes (qosMbuf 100 none) twoSubframes :=
  .more ⟨rfl, rfl, rfl, rfl, ⟨rfl, rfl⟩, by decide⟩ (by decide)
    (.last ⟨rfl, rfl, rfl, rfl, ⟨rfl, rfl⟩, by decide⟩ (by decide))

theorem holds_next : ∃ ni, NodeReachable ni ∧ (ni.niRxAmpdu 0).rxaStart = 100 ∧ (ni.niRxAmpdu 0).rxaQframes = 1 ∧
    (ni.niRxAmpdu 0).xchgpend = true ∧ (ni.niRxAmpdu 0).waitrx = false := by
  obtain ⟨ni, hr, hx⟩ := runOps_observe [.rxStartExt 0 100 8, .reorder ⟨0, 500⟩ (qosMbuf 101 none) none]
    (fun ni => ((ni.niRxAmpdu 0).rxaStart, (ni.niRxAmpdu 0).rxaQframes, (ni.niRxAmpdu 0).xchgpend,
      (ni.niRxAmpdu 0).waitrx))
    (x := (100, 1, true, false)) (by simp [Op.wellFormed]) (by decide)
  simp only [Prod.mk.injEq] at hx
  exact ⟨ni, hr, hx⟩

theorem subframes_alike_held : ∃ ni, NodeReachable ni ∧ (ni.niRxAmpdu 0).rxaQframes = 1 ∧
    ∃ calls, subframeCalls ni twoSubframes = .ok calls ∧
      (Alike calls ↔ AlikeWhen (ni.niRxAmpdu 0) (qosMbuf 100 none) (twoSubframes.map Prod.fst)) := by
  obtain ⟨ni, hr, -, hq, -, -⟩ := holds_next
  exact ⟨ni, hr, hq, subframes_alike_iff hr twoSubframes_subframes⟩

/-- **The second subframe of the number that is waited for is lost** when a later frame is held. -/
theorem second_subframe_lost : ∃ ni calls, NodeReachable ni ∧ Subframes (qosMbuf 100 none) twoSubframes ∧
    subframeCalls ni twoSubframes = .ok calls ∧ ¬ Alike calls := by
  obtain ⟨ni, hr, hstart, hq, hxchg, hwait⟩ := holds_next
  have hinv := reachable_inv hr
  have heq : (ni.niRxAmpdu 0).entered 100 = ni.niRxAmpdu 0 := entered_of_not_waitrx hwait 100
  have hheld : ((ni.niRxAmpdu 0).entered 100).rxaQframes ≠ 0 := by
    rw [heq, hq]
    decide
  have hrun : ∃ calls, subframeCalls ni twoSubframes = .ok calls ∧
      (Alike calls ↔ (twoSubframes.map Prod.fst).length = 1) :=
    run_alike_iff twoSubframes_subframes hinv.ht ⟨rfl, rfl, rfl⟩ hxchg
      ((hinv.sessions 0).entered hxchg (by decide)) (heq.symm ▸ hstart.symm) hheld
  obtain ⟨calls, hok, halike⟩ := hrun
  exact ⟨ni, calls, hr, twoSubframes_subframes, hok, fun h => absurd (halike.mp h) (by decide)⟩

end Net80211
