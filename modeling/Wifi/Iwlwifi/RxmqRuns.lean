import Mathlib.Data.Nat.ModEq
import Wifi.Iwlwifi.RxmqInv

/-!
# Runs of the iwlwifi reorder buffer

* `Op.Harmless` — the conditions on one call, on its arguments and the buffer it finds.
* `Op.apply_spec` — the step lemma: a harmless call returns and keeps `Inv`.
* `buffer_in_window` — over runs of harmless calls the buffer counts its frames and holds them in
  the window; a release strands frames exactly when it is not `ReleaseOk`; `iwl_mvm_del_ba` leaves
  the buffer empty.
-/

namespace Iwlwifi

open Slots

structure Inv (t : ReorderBuffer) : Prop where
  counted : Counted t
  window : InWindow t

variable (k : KernelApi)

theorem Inv.release {t : ReorderBuffer} (h : Inv t) {nssn : Nat} (hn : nssn < 4096)
    {fromRssSync : Bool} (hok : ReleaseOk k t nssn fromRssSync) :
    ∃ t' out, iwlMvmReleaseFrames k t nssn fromRssSync = some (t', out) ∧ Inv t' ∧
      ReleasedTo k t t' nssn fromRssSync := by
  obtain ⟨t', out, hr, hrel⟩ := iwlMvmReleaseFrames_spec k h.counted hn fromRssSync
  exact ⟨t', out, hr, ⟨hrel.counted, (hrel.inWindow_iff k h.counted h.window hn).2 hok⟩, hrel⟩

/-- A number at most one buffer size ahead of the head is near. -/
theorem releaseOk_ahead {t : ReorderBuffer} (h : Counted t) {d : Nat} (h1 : 1 ≤ d)
    (hd : d ≤ t.bufSize) (fromRssSync : Bool) :
    ReleaseOk k t ((t.headSn + d) % 4096) fromRssSync := by
  have hlt := h.head_lt
  have hle := h.size_le
  refine .inr (.inr (.inr (.inl ?_)))
  rw [iwlMvmIsSnLess_iff k (by omega) h.size_pos h.size_le]
  unfold snDist
  omega

/-! ## Timer and end of the session -/

theorem expiredLoop_spec (t : ReorderBuffer) (jiffies : BitVec 64) :
    ∀ (n i : Nat) (cont : Bool) (index : Nat) (e : Option Nat), i + n ≤ t.bufSize →
    (∀ sn, e = some sn → ∃ d, 1 ≤ d ∧ d ≤ t.bufSize ∧ sn = (t.headSn + d) % 4096) →
    ∀ sn, (expiredLoop k t jiffies n i cont index e).2 = some sn →
      ∃ d, 1 ≤ d ∧ d ≤ t.bufSize ∧ sn = (t.headSn + d) % 4096
  | 0, _, _, _, _, _, he => he
  | n + 1, i, cont, index, e, hle, he => by
    unfold expiredLoop
    by_cases hempty : t.frames ((t.headSn + i) % t.bufSize) = []
    · simp only [if_pos hempty]
      exact expiredLoop_spec t jiffies n (i + 1) false _ e (by omega) he
    · simp only [if_neg hempty]
      split
      · exact he
      · refine expiredLoop_spec t jiffies n (i + 1) true _ _ (by omega) fun sn hsn => ?_
        rw [Option.some.injEq, k.snAdd_eq] at hsn
        exact ⟨i + 1, by omega, by omega, hsn.symm⟩

/-- **The reorder timer keeps the invariant.** -/
theorem iwlMvmReorderTimerExpired_spec {t : ReorderBuffer} (h : Inv t) (jiffies : BitVec 64)
    (staOk : Bool) :
    ∃ t' out, iwlMvmReorderTimerExpired k t jiffies staOk = some (t', out) ∧ Inv t' := by
  unfold iwlMvmReorderTimerExpired
  by_cases h0 : t.numStored = 0 ∨ t.removed = true
  · rw [if_pos h0]
    exact ⟨t, [], rfl, h⟩
  · rw [if_neg h0]
    have hspec := expiredLoop_spec k t jiffies t.bufSize 0 false 0 none (by omega) (by simp)
    cases hl : expiredLoop k t jiffies t.bufSize 0 false 0 none with
    | mk index e =>
      rw [hl] at hspec
      cases e with
      | none =>
        exact ⟨_, [], rfl, ⟨h.counted.size_pos, h.counted.size_le, h.counted.dvd, h.counted.head_lt,
          h.counted.stored, h.counted.lt, h.counted.slot⟩, h.window⟩
      | some sn =>
        cases staOk with
        | false => exact ⟨t, [], rfl, h⟩
        | true =>
          obtain ⟨d, h1, hd, hsn⟩ := hspec sn rfl
          obtain ⟨t', out, hr, hi, -⟩ :=
            h.release k (Nat.mod_lt _ (by decide)) (releaseOk_ahead k h.counted h1 hd false)
          exact ⟨t', out, by rw [← hr, hsn]; rfl, hi⟩

/-- **`iwl_mvm_del_ba` leaves the buffer empty.** -/
theorem iwlMvmDelBa_spec {t : ReorderBuffer} (h : Inv t) (staOk : Bool) :
    ∃ t' out, iwlMvmDelBa k t staOk = some (t', out) ∧ Inv t' ∧
      (staOk = true → t'.numStored = 0 ∧ ∀ i, t'.frames i = []) := by
  unfold iwlMvmDelBa
  cases staOk with
  | false => exact ⟨t, [], rfl, h, fun hf => by cases hf⟩
  | true =>
    have hpos := h.counted.size_pos
    have hle := h.counted.size_le
    have hlt := h.counted.head_lt
    have hok := releaseOk_ahead k h.counted hpos (le_refl _) false
    have hn : (t.headSn + t.bufSize) % 4096 < 4096 := Nat.mod_lt _ (by decide)
    obtain ⟨t', out, hr, hi, hrel⟩ := h.release k hn hok
    have hnot : ¬ Ignored k t ((t.headSn + t.bufSize) % 4096) false := by
      rintro (⟨hf, -⟩ | hback)
      · cases hf
      · rw [iwlMvmIsSnLess_iff k (by omega) hpos hle] at hback
        unfold snDist at hback
        omega
    -- every held frame was before the new head, which lies a whole window ahead
    have hempty : ∀ i, t'.frames i = [] := by
      intro i
      by_contra hne
      obtain ⟨f, hf⟩ := List.exists_mem_of_ne_nil _ hne
      have hnew := hi.window i f hf
      have hold := h.window i f (hrel.shrunk.mem hf).2
      have := f.seq_lt
      rw [(hrel.moved hnot).1, hrel.shrunk.size] at hnew
      unfold snDist at hnew hold
      omega
    refine ⟨{ t' with reorderTimer := none }, out, ?_, ⟨⟨hi.counted.size_pos, hi.counted.size_le,
      hi.counted.dvd, hi.counted.head_lt, hi.counted.stored, hi.counted.lt, hi.counted.slot⟩,
      hi.window⟩, fun _ => ⟨hi.counted.empty_iff.2 hempty, hempty⟩⟩
    rw [if_pos rfl, k.snAdd_eq, hr]
    rfl

/-! ## Frames -/

/-- A frame whose number the entries already hold, and that does not continue their A-MSDU. -/
def Retransmission (t : ReorderBuffer) (f : RxFrame) : Prop :=
  t.frames (f.seq % t.bufSize) ≠ [] ∧
    (f.amsdu = false ∨ f.seq ≠ t.lastAmsdu ∨ f.subFrameIdx.toNat ≤ t.lastSubIndex)

/-- The conditions on a frame.  `jump`: the adjustment to a jump strands nothing.  `near`: the
    number of the frame is before its NSSN or less than one buffer size ahead of it, or of the head
    when the NSSN is behind that.  `final`: a frame that is put in the buffer is at most one buffer
    size behind its NSSN.  `room`: the counter does not overflow. -/
structure FrameOk (t : ReorderBuffer) (f : RxFrame) : Prop where
  jump : jumped k t f = true → ReleaseOk k t (minSn k f) false
  near : k.snLess f.seq f.nssn.toNat = true ∨ snDist f.seq f.nssn.toNat < t.bufSize ∨
    (iwlMvmIsSnLess k f.nssn.toNat t.headSn t.bufSize = true ∧
      snDist f.seq t.headSn < t.bufSize)
  final : f.whole = true → k.snLess f.seq f.nssn.toNat = true →
    snDist f.nssn.toNat f.seq ≤ t.bufSize ∨ k.snLess f.seq t.headSn = true ∨
      (∀ i, ∀ g ∈ t.frames i, k.snLess g.seq f.seq = true) ∨ Retransmission t f
  room : t.numStored < 65535

theorem minSn_lt (f : RxFrame) : minSn k f < 4096 := by
  unfold minSn
  split
  · exact f.sn.isLt
  · exact f.nssn.isLt

/-- The buffer after the adjustment to a jump. -/
structure Adjusted (t t' : ReorderBuffer) (f : RxFrame) : Prop where
  inv : Inv t'
  shrunk : Shrunk t t'
  tail : t'.lastAmsdu = t.lastAmsdu ∧ t'.lastSubIndex = t.lastSubIndex
  still : jumped k t f = false → t'.headSn = t.headSn
  behind : jumped k t f = true → iwlMvmIsSnLess k (minSn k f) t.headSn t.bufSize = true →
    t'.headSn = t.headSn
  moved : jumped k t f = true → iwlMvmIsSnLess k (minSn k f) t.headSn t.bufSize = false →
    t'.headSn = minSn k f
  kept : jumped k t f = true → iwlMvmIsSnLess k (minSn k f) t.headSn t.bufSize = false →
    ∀ i, (∀ d, d < snDist (minSn k f) t.headSn → i ≠ entryAfter t.bufSize t.headSn d) →
      t'.frames i = t.frames i

theorem adjustJump_spec {t : ReorderBuffer} (h : Inv t) {f : RxFrame} (hok : FrameOk k t f) :
    ∃ t' out, adjustJump k t f = some (t', out) ∧ Adjusted k t t' f := by
  unfold adjustJump
  cases hj : jumped k t f with
  | false =>
    exact ⟨t, [], rfl, h, Shrunk.refl t, ⟨rfl, rfl⟩, fun _ => rfl, fun _ _ => rfl,
      fun hf => by rw [hj] at hf; contradiction, fun _ _ _ _ => rfl⟩
  | true =>
    obtain ⟨t', out, hr, hi, hrel⟩ := h.release k (minSn_lt k f) (hok.jump hj)
    have hmoves : iwlMvmIsSnLess k (minSn k f) t.headSn t.bufSize = false →
        ¬ Ignored k t (minSn k f) false := by
      rintro hb (⟨hf, -⟩ | hc)
      · cases hf
      · rw [hb] at hc; cases hc
    refine ⟨t', out, hr, hi, hrel.shrunk, hrel.rest.2.2, fun hf => ?_,
      fun _ hb => (hrel.ignored (.inr hb)).1, fun _ hb => (hrel.moved (hmoves hb)).1,
      fun _ hb i hno => ?_⟩
    · rw [hj] at hf; cases hf
    · obtain ⟨-, u, hu, hframes⟩ := hrel.moved (hmoves hb)
      rw [hframes]
      exact hu.kept i fun _ => hno

/-- The workaround for old sequence numbers changes its own counters only. -/
theorem oldsn_kept (t : ReorderBuffer) (f : RxFrame) :
    { iwlMvmOldsnWorkaround t f with
      consecOldsnDrops := t.consecOldsnDrops
      consecOldsnAmpduGp2 := t.consecOldsnAmpduGp2
      consecOldsnPrevDrop := t.consecOldsnPrevDrop } = t := by
  unfold iwlMvmOldsnWorkaround countOldsn
  simp only
  repeat' split
  all_goals rfl

theorem Adjusted.oldsn {t t' : ReorderBuffer} {f : RxFrame} (h : Adjusted k t t' f) :
    Adjusted k t (iwlMvmOldsnWorkaround t' f) f := by
  rw [← oldsn_kept t' f] at h
  exact ⟨⟨⟨h.inv.counted.size_pos, h.inv.counted.size_le, h.inv.counted.dvd, h.inv.counted.head_lt,
    h.inv.counted.stored, h.inv.counted.lt, h.inv.counted.slot⟩, h.inv.window⟩,
    ⟨h.shrunk.size, h.shrunk.frames⟩, h.tail, h.still, h.behind, h.moved, h.kept⟩

theorem decision_put {t : ReorderBuffer} {f : RxFrame} (h : decision k t f = .put) :
    k.snLess f.seq t.headSn = false ∧
      ¬ (t.numStored = 0 ∧ k.snLess f.seq f.nssn.toNat = true) ∧ ¬ Retransmission t f := by
  unfold decision at h
  simp only at h
  repeat' split at h
  all_goals cases h
  rename_i h1 h2 h3 h4 h5
  refine ⟨Bool.eq_false_iff.2 h1, h2, ?_⟩
  rintro ⟨hne, ha | hrest⟩
  · exact h4 ⟨hne, ha⟩
  · exact h5 ⟨hne, hrest⟩

/-- A direct release may only move the head of an empty buffer. -/
theorem decision_pass {t t' : ReorderBuffer} (h : Inv t) {f : RxFrame}
    (hd : decision k t f = .pass t') : Inv t' := by
  have hempty : ∀ n, n < 4096 → t.numStored = 0 → Inv { t with headSn := n } := by
    intro n hn h0
    have hall := h.counted.empty_iff.1 h0
    refine ⟨⟨h.counted.size_pos, h.counted.size_le, h.counted.dvd, hn, h.counted.stored,
      h.counted.lt, h.counted.slot⟩, fun i g hg => ?_⟩
    have hg' : g ∈ t.frames i := hg
    rw [hall i] at hg'
    cases hg'
  unfold decision at hd
  simp only at hd
  repeat' split at hd
  all_goals cases hd
  · rename_i h2 h3
    exact hempty _ f.nssn.isLt h2.1
  · exact h
  · rename_i h2 h3
    exact hempty _ (k.snInc_lt _) h2.1
  · exact h

/-- After the jump of the head to the frame something is still held, when the frame is put in the
    buffer with an NSSN ahead of it. -/
theorem put_notEmpty {t t' : ReorderBuffer} {f : RxFrame} (ha : Adjusted k t t' f)
    (hput : decision k t' f = .put) (hl : k.snLess f.seq f.nssn.toNat = true) :
    ¬ ∀ i, t'.frames i = [] := by
  obtain ⟨-, hdirect, -⟩ := decision_put k hput
  exact fun hall => hdirect ⟨ha.inv.counted.empty_iff.2 hall, hl⟩

section put

variable {t t' : ReorderBuffer} {f : RxFrame} (h : Inv t) (hok : FrameOk k t f)
  (ha : Adjusted k t t' f) (hput : decision k t' f = .put)
include h hok ha hput

/-- **A frame that is put in the buffer is in the window.** -/
theorem put_inWindow : snDist f.seq t'.headSn < t.bufSize := by
  obtain ⟨hold, -, -⟩ := decision_put k hput
  have hlt := h.counted.head_lt
  have hpos := h.counted.size_pos
  have hle := h.counted.size_le
  have hseq := f.seq_lt
  have hnssn : f.nssn.toNat < 4096 := f.nssn.isLt
  have hlt' := ha.inv.counted.head_lt
  rw [k.snLess_eq_false (by omega)] at hold
  have hnear := hok.near
  rw [k.snLess_iff _ _ (by omega), iwlMvmIsSnLess_iff k (by omega) hpos hle] at hnear
  cases hj : jumped k t f with
  | false =>
    have hhead := ha.still hj
    unfold jumped at hj
    rw [Bool.or_eq_false_iff, Bool.not_eq_false', Bool.not_eq_false',
      iwlMvmIsSnLess_iff k (by omega) hpos hle, k.snLess_iff _ _ (by omega)] at hj
    rw [hhead] at hold ⊢
    unfold snDist at hj hold ⊢
    omega
  | true =>
    have hbehind := ha.behind hj
    have hmoved := ha.moved hj
    have hmin : iwlMvmIsSnLess k (minSn k f) t.headSn t.bufSize = true ↔ _ :=
      iwlMvmIsSnLess_iff k (by omega) hpos hle
    have hminle := minSn_lt k f
    cases hb : iwlMvmIsSnLess k (minSn k f) t.headSn t.bufSize with
    | true =>
      have hback := hmin.1 hb
      rw [hbehind hb] at hold ⊢
      unfold minSn at hback
      cases hl : k.snLess f.seq f.nssn.toNat with
      | true =>
        rw [hl, if_pos rfl] at hback
        unfold snDist at hback hold ⊢
        omega
      | false =>
        rw [hl, if_neg Bool.false_ne_true] at hback
        rw [k.snLess_eq_false (by omega)] at hl
        unfold snDist at hback hold hl hnear ⊢
        omega
    | false =>
      have hnb : ¬ (4096 - t.bufSize ≤ snDist (minSn k f) t.headSn) := fun hc => by
        rw [hmin.2 hc] at hb; cases hb
      rw [hmoved hb]
      unfold minSn at hnb ⊢
      cases hl : k.snLess f.seq f.nssn.toNat with
      | true =>
        rw [if_pos rfl]
        unfold snDist
        omega
      | false =>
        rw [hl, if_neg Bool.false_ne_true] at hnb
        rw [k.snLess_eq_false (by omega)] at hl
        rw [if_neg Bool.false_ne_true]
        unfold snDist at hnb hl hnear ⊢
        omega

/-- A retransmission is not put in the buffer after a jump to it. -/
theorem put_notRetransmission (hj : jumped k t f = true)
    (hl : k.snLess f.seq f.nssn.toNat = true)
    (hb : iwlMvmIsSnLess k f.seq t.headSn t.bufSize = false) : ¬ Retransmission t f := by
  intro hret
  have hmin : minSn k f = f.seq := by unfold minSn; rw [if_pos hl]
  obtain ⟨-, -, hnret⟩ := decision_put k hput
  have hlt := h.counted.head_lt
  have hpos := h.counted.size_pos
  have hle := h.counted.size_le
  have hseq := f.seq_lt
  have hmoved := ha.moved hj (by rw [hmin]; exact hb)
  have hkept := ha.kept hj (by rw [hmin]; exact hb)
  have hjump := hok.jump hj
  rw [hmin] at hmoved hkept hjump
  have hnb : ¬ (4096 - t.bufSize ≤ snDist f.seq t.headSn) := fun hc => by
    rw [(iwlMvmIsSnLess_iff k (by omega) hpos hle).2 hc] at hb; cases hb
  -- the request was near the head, since something is held
  have hnear : snDist f.seq t.headSn ≤ t.bufSize := by
    rcases hjump with h0 | ⟨hf, -⟩ | heq | hfwd | hback
    · exact absurd (h.counted.empty_iff.1 h0 _) hret.1
    · cases hf
    · rw [heq]; unfold snDist; omega
    · rw [iwlMvmIsSnLess_iff k (by omega) hpos hle] at hfwd
      unfold snDist at hfwd ⊢
      omega
    · rw [hb] at hback; cases hback
  by_cases hwhole : snDist f.seq t.headSn = t.bufSize
  · refine put_notEmpty k ha hput hl fun i => ?_
    by_contra hne
    obtain ⟨g, hg⟩ := List.exists_mem_of_ne_nil _ hne
    have hnew := ha.inv.window i g hg
    have hold := h.window i g (ha.shrunk.mem hg).2
    have := g.seq_lt
    rw [hmoved, ha.shrunk.size] at hnew
    unfold snDist at hnew hold hwhole
    omega
  · have hsame : t'.frames (f.seq % t.bufSize) = t.frames (f.seq % t.bufSize) := by
      refine hkept _ fun d hd he => ?_
      have hf : f.seq % t.bufSize = (t.headSn + snDist f.seq t.headSn) % t.bufSize := by
        rw [← Nat.mod_mod_of_dvd (t.headSn + snDist f.seq t.headSn) h.counted.dvd]
        congr 1
        unfold snDist
        omega
      have hd' : entryAfter t.bufSize t.headSn d = (t.headSn + d) % t.bufSize :=
        Nat.mod_mod_of_dvd _ h.counted.dvd
      rw [hf, hd'] at he
      have hm := Nat.ModEq.add_left_cancel' t.headSn he
      unfold Nat.ModEq at hm
      rw [Nat.mod_eq_of_lt (by omega), Nat.mod_eq_of_lt (by omega)] at hm
      omega
    refine hnret ⟨?_, ?_⟩
    · rw [ha.shrunk.size, hsame]; exact hret.1
    · rw [ha.tail.1, ha.tail.2]; exact hret.2

/-- **The last release of a frame that is put in the buffer is near the head.** -/
theorem put_releaseOk (hw : f.whole = true) :
    f.nssn.toNat = t'.headSn ∨ iwlMvmIsSnLess k t'.headSn f.nssn.toNat t.bufSize = true ∨
      iwlMvmIsSnLess k f.nssn.toNat t'.headSn t.bufSize = true := by
  obtain ⟨hold, -, -⟩ := decision_put k hput
  have hlt := h.counted.head_lt
  have hpos := h.counted.size_pos
  have hle := h.counted.size_le
  have hseq := f.seq_lt
  have hnssn : f.nssn.toNat < 4096 := f.nssn.isLt
  cases hj : jumped k t f with
  | false =>
    rw [ha.still hj, iwlMvmIsSnLess_iff k (by omega) hpos hle]
    unfold jumped at hj
    rw [Bool.or_eq_false_iff, Bool.not_eq_false', iwlMvmIsSnLess_iff k (by omega) hpos hle] at hj
    unfold snDist at hj ⊢
    omega
  | true =>
    cases hl : k.snLess f.seq f.nssn.toNat with
    | false =>
      have hmin : minSn k f = f.nssn.toNat := by
        unfold minSn; rw [hl, if_neg Bool.false_ne_true]
      cases hb : iwlMvmIsSnLess k f.nssn.toNat t.headSn t.bufSize with
      | true => rw [ha.behind hj (by rw [hmin]; exact hb)]; exact .inr (.inr hb)
      | false => exact .inl ((ha.moved hj (by rw [hmin]; exact hb)).trans hmin).symm
    | true =>
      have hmin : minSn k f = f.seq := by unfold minSn; rw [if_pos hl]
      cases hb : iwlMvmIsSnLess k f.seq t.headSn t.bufSize with
      | true =>
        -- the frame is behind the head, so it was dropped
        rw [ha.behind hj (by rw [hmin]; exact hb), k.snLess_eq_false (by omega)] at hold
        rw [iwlMvmIsSnLess_iff k (by omega) hpos hle] at hb
        unfold snDist at hold hb
        omega
      | false =>
        have hhead : t'.headSn = f.seq := (ha.moved hj (by rw [hmin]; exact hb)).trans hmin
        rcases hok.final hw hl with hnear | hpast | hbefore | hret
        · rw [hhead, iwlMvmIsSnLess_iff k (by omega) hpos hle]
          rw [k.snLess_iff _ _ (by omega)] at hl
          refine .inr (.inl ?_)
          unfold snDist at hnear hl ⊢
          omega
        · -- the head moves backwards, which is allowed to an empty buffer only
          exfalso
          refine put_notEmpty k ha hput hl fun i => ?_
          have hjump := hok.jump hj
          rw [hmin] at hjump
          rw [k.snLess_iff _ _ (by omega)] at hpast
          have h0 : t.numStored = 0 := by
            rcases hjump with h0 | ⟨hf, -⟩ | heq | hfwd | hback
            · exact h0
            · cases hf
            · rw [heq] at hpast; unfold snDist at hpast; omega
            · rw [iwlMvmIsSnLess_iff k (by omega) hpos hle] at hfwd
              unfold snDist at hfwd hpast
              omega
            · rw [hb] at hback; cases hback
          rcases ha.shrunk.frames i with he | he
          · rw [he]; exact h.counted.empty_iff.1 h0 i
          · exact he
        · exfalso
          refine put_notEmpty k ha hput hl fun i => ?_
          by_contra hne
          obtain ⟨g, hg⟩ := List.exists_mem_of_ne_nil _ hne
          have hnew := ha.inv.window i g hg
          have hg' := hbefore i g (ha.shrunk.mem hg).2
          rw [k.snLess_iff _ _ (by omega)] at hg'
          rw [hhead, ha.shrunk.size] at hnew
          omega
        · exact absurd hret (put_notRetransmission k h hok ha hput hj hl hb)

end put

theorem Shrunk.count_le {t t' : ReorderBuffer} (h : Shrunk t t') (hc : Counted t)
    (hc' : Counted t') : t'.numStored ≤ t.numStored := by
  have hle : count t'.frames t.bufSize ≤ count t.frames t.bufSize :=
    count_le_count fun i _ => by
      rcases h.frames i with he | he
      · rw [he]
      · rw [he]; exact Nat.zero_le _
  have h1 := hc.stored
  have h2 := hc'.stored
  rw [h.size] at h2
  omega

/-- **Putting a frame that is in the window keeps the invariant.** -/
theorem putFrame_inv {t : ReorderBuffer} (h : Inv t) (jiffies : BitVec 64) {f : RxFrame}
    (hin : snDist f.seq t.headSn < t.bufSize) (hroom : t.numStored < 65535) :
    Inv (putFrame t jiffies f) := by
  have hi := Nat.mod_lt f.seq h.counted.size_pos
  have hmem : ∀ i, ∀ g ∈ put t.frames (f.seq % t.bufSize) [f] i,
      g ∈ t.frames i ∨ (g = f ∧ i = f.seq % t.bufSize) := by
    intro i g hg
    by_cases hii : i = f.seq % t.bufSize
    · rw [hii, put_self, List.mem_append, List.mem_singleton] at hg
      rw [hii]
      exact hg.imp_right fun he => ⟨he, rfl⟩
    · rw [put_ne _ _ hii] at hg
      exact .inl hg
  refine ⟨⟨h.counted.size_pos, h.counted.size_le, h.counted.dvd, h.counted.head_lt, ?_,
    Nat.mod_lt _ (by decide), fun i g hg => ?_⟩, fun i g hg => ?_⟩
  · show (((t.numStored + 1) % 65536 : Nat) : ℤ) = count (put t.frames _ [f]) t.bufSize
    rw [Nat.mod_eq_of_lt (by omega), count, total_put _ _ _ hi, weight_one, Nat.cast_add,
      h.counted.stored]
    rfl
  · rcases hmem i g hg with hold | ⟨he, hii⟩
    · exact h.counted.slot i g hold
    · rw [he]; exact hii
  · rcases hmem i g hg with hold | ⟨he, -⟩
    · exact h.window i g hold
    · rw [he]; exact hin

/-- The conditions of `iwl_mvm_reorder` on a frame. -/
def ReorderOk (t : ReorderBuffer) (f : RxFrame) : Prop :=
  f.admitted = true → ¬ (t.valid = false ∧ f.baOldSn = true) →
    if f.backReq = true then ReleaseOk k t f.nssn.toNat false else FrameOk k t f

/-- **`iwl_mvm_reorder` keeps the invariant.** -/
theorem iwlMvmReorder_spec {t : ReorderBuffer} (h : Inv t) (jiffies : BitVec 64) {f : RxFrame}
    (hok : ReorderOk k t f) :
    ∃ fate t' out, iwlMvmReorder k t jiffies f = some (fate, t', out) ∧ Inv t' := by
  unfold iwlMvmReorder
  by_cases h1 : f.admitted = false
  · rw [if_pos h1]
    exact ⟨.pass, t, [], rfl, h⟩
  · rw [if_neg h1]
    by_cases h2 : t.valid = false ∧ f.baOldSn = true
    · rw [if_pos h2]
      exact ⟨.pass, t, [], rfl, h⟩
    · rw [if_neg h2]
      have hok' := hok (by simpa using h1) h2
      have hv : Inv { t with valid := true } :=
        ⟨⟨h.counted.size_pos, h.counted.size_le, h.counted.dvd, h.counted.head_lt,
          h.counted.stored, h.counted.lt, h.counted.slot⟩, h.window⟩
      by_cases hbar : f.backReq = true
      · rw [if_pos hbar] at hok'
        obtain ⟨t', out, hr, hi, -⟩ := hv.release k f.nssn.isLt hok'
        simp only [if_pos hbar, hr]
        exact ⟨.drop, t', out, rfl, hi⟩
      · rw [if_neg hbar] at hok'
        have hokv : FrameOk k { t with valid := true } f :=
          ⟨hok'.jump, hok'.near, hok'.final, hok'.room⟩
        obtain ⟨t₁, out, hadj, ha₁⟩ := adjustJump_spec k hv hokv
        have ha := ha₁.oldsn k
        simp only [if_neg hbar, hadj]
        cases hd : decision k (iwlMvmOldsnWorkaround t₁ f) f with
        | drop => exact ⟨.drop, _, out, rfl, ha.inv⟩
        | pass t' => exact ⟨.pass, t', out, rfl, decision_pass k ha.inv hd⟩
        | put =>
          have hin := put_inWindow k hv hokv ha hd
          have hroom := Nat.lt_of_le_of_lt (ha.shrunk.count_le hv.counted ha.inv.counted) hok'.room
          have hput := putFrame_inv ha.inv jiffies (ha.shrunk.size ▸ hin) hroom
          by_cases hw : f.whole = true
          · have hnear := put_releaseOk k hv hokv ha hd hw
            rw [← ha.shrunk.size] at hnear
            have hlast : ReleaseOk k (putFrame (iwlMvmOldsnWorkaround t₁ f) jiffies f)
                f.nssn.toNat false := .inr (.inr hnear)
            obtain ⟨t', out', hr, hi, -⟩ := hput.release k f.nssn.isLt hlast
            simp only [if_pos hw, hr]
            exact ⟨.buffered, t', out ++ out', rfl, hi⟩
          · simp only [if_neg hw]
            exact ⟨.buffered, _, out, rfl, hput⟩

/-! ## Runs -/

def Op.Harmless (t : ReorderBuffer) : Op → Prop
  | .reorder _ f => ReorderOk k t f
  | .notif nssn fromRssSync staOk => staOk = true → ReleaseOk k t nssn.toNat fromRssSync
  | .timer _ _ | .delBa _ => True

/-- **The step lemma.** -/
theorem Op.apply_spec {t : ReorderBuffer} (h : Inv t) {op : Op} (hok : op.Harmless k t) :
    ∃ t' fate out, op.apply k t = some (t', fate, out) ∧ Inv t' := by
  cases op with
  | reorder jiffies f =>
    obtain ⟨fate, t', out, hr, hi⟩ := iwlMvmReorder_spec k h jiffies hok
    exact ⟨t', some fate, out, by simp only [Op.apply, hr]; rfl, hi⟩
  | notif nssn fromRssSync staOk =>
    cases staOk with
    | false => exact ⟨t, none, [], rfl, h⟩
    | true =>
      obtain ⟨t', out, hr, hi, -⟩ := h.release k nssn.isLt (hok rfl)
      refine ⟨t', none, out, ?_, hi⟩
      simp only [Op.apply, iwlMvmReleaseFramesFromNotif, if_true, hr]
      rfl
  | timer jiffies staOk =>
    obtain ⟨t', out, hr, hi⟩ := iwlMvmReorderTimerExpired_spec k h jiffies staOk
    exact ⟨t', none, out, by simp only [Op.apply, hr]; rfl, hi⟩
  | delBa staOk =>
    obtain ⟨t', out, hr, hi, -⟩ := iwlMvmDelBa_spec k h staOk
    exact ⟨t', none, out, by simp only [Op.apply, hr]; rfl, hi⟩

theorem Installed.inv {t : ReorderBuffer} (h : Installed t) : Inv t := by
  obtain ⟨ssn, b, hssn, hpos, hle, hdvd, rfl⟩ := h
  refine ⟨⟨hpos, hle, hdvd, hssn, ?_, Nat.zero_lt_succ _, fun _ _ hf => (List.not_mem_nil hf).elim⟩,
    fun _ _ hf => (List.not_mem_nil hf).elim⟩
  exact (count_eq_zero.2 fun _ _ => rfl).symm

/-- **The run lemma.** -/
theorem reachable_inv {t : ReorderBuffer}
    (hr : Runs.Reachable Installed (Runs.Guarded (fun t op => op.Harmless k t) (Step k)) t) :
    Inv t := by
  refine hr.invariant (fun _ h0 => h0.inv) fun t op t' hi hs => ?_
  obtain ⟨hok, fate, out, ha⟩ := hs
  obtain ⟨t₁, fate₁, out₁, ha₁, hi₁⟩ := Op.apply_spec k hi hok
  rw [ha, Option.some.injEq, Prod.mk.injEq] at ha₁
  rw [ha₁.1]
  exact hi₁

/-- The buffer counts its frames, and holds each in its entry and in the window. -/
structure Disciplined (t : ReorderBuffer) : Prop where
  stored : (t.numStored : ℤ) = count t.frames t.bufSize
  place : ∀ i, ∀ f ∈ t.frames i, i = f.seq % t.bufSize ∧ snDist f.seq t.headSn < t.bufSize

theorem Inv.disciplined {t : ReorderBuffer} (h : Inv t) : Disciplined t :=
  ⟨h.counted.stored, fun i f hf => ⟨h.counted.slot i f hf, h.window i f hf⟩⟩

/-- **In a run of harmless calls the buffer counts its frames and holds them in the window, every
    harmless call returns, `iwl_mvm_release_frames` keeps every frame in the window exactly when
    its request is near the head, and `iwl_mvm_del_ba` leaves the buffer empty.** -/
theorem buffer_in_window {t : ReorderBuffer}
    (hr : Runs.Reachable Installed (Runs.Guarded (fun t op => op.Harmless k t) (Step k)) t) :
    Disciplined t ∧ (∀ op : Op, op.Harmless k t → ∃ t', Step k t op t') ∧
      (∀ (nssn : BitVec 12) (fromRssSync : Bool), ∃ t' out,
        iwlMvmReleaseFrames k t nssn.toNat fromRssSync = some (t', out) ∧
          (Disciplined t' ↔ ReleaseOk k t nssn.toNat fromRssSync)) ∧
      ∃ t' out, iwlMvmDelBa k t true = some (t', out) ∧ t'.numStored = 0 ∧
        ∀ i, t'.frames i = [] := by
  have hi := reachable_inv k hr
  refine ⟨hi.disciplined, fun op hok => ?_, fun nssn fromRssSync => ?_, ?_⟩
  · obtain ⟨t', fate, out, ha, -⟩ := Op.apply_spec k hi hok
    exact ⟨t', fate, out, ha⟩
  · obtain ⟨t', out, hrel, hto⟩ := iwlMvmReleaseFrames_spec k hi.counted nssn.isLt fromRssSync
    have hiff := hto.inWindow_iff k hi.counted hi.window nssn.isLt
    refine ⟨t', out, hrel, fun hd => hiff.1 fun i f hf => (hd.place i f hf).2, fun hok => ?_⟩
    exact (show Inv t' from ⟨hto.counted, hiff.2 hok⟩).disciplined
  · obtain ⟨t', out, hdel, -, hempty⟩ := iwlMvmDelBa_spec k hi true
    exact ⟨t', out, hdel, hempty rfl⟩

def Op.next (t : ReorderBuffer) (op : Op) : Option ReorderBuffer := (op.apply k t).map Prod.fst

theorem Op.next_step {t t' : ReorderBuffer} {op : Op} (h : op.next k t = some t') :
    Step k t op t' := by
  unfold Op.next at h
  cases ha : op.apply k t with
  | none => rw [ha] at h; cases h
  | some r =>
    rw [ha] at h
    cases h
    exact ⟨r.2.1, r.2.2, ha⟩

def mpdu (sn nssn : BitVec 12) : RxFrame :=
  { baidValid := true, staValid := true, backReq := false, dataQos := true, multicast := false,
    dataPresent := true, baidKnown := true, sessionMatches := true, nssn := nssn, sn := sn,
    baOldSn := false, gp2 := 0, amsdu := false, lastSubframe := false, subFrameIdx := 0, data := 0 }

/-- A frame is held across the end of the sequence space, in a buffer of 64 frames. -/
theorem buffer_in_window_across_wrap :
    ∃ t, Runs.Reachable Installed
      (Runs.Guarded (fun t op => op.Harmless .linux t) (Step .linux)) t ∧
      t.frames 0 = [mpdu 0 4090] ∧ Disciplined t := by
  obtain ⟨t₀, h₀⟩ : ∃ t, t = iwlMvmInitReorderBuffer 4090 64 := ⟨_, rfl⟩
  have hok : (Op.reorder 0 (mpdu 0 4090)).Harmless .linux t₀ := by
    subst h₀
    intro _ _
    rw [if_neg (by decide)]
    refine ⟨fun hj => ?_, .inr (.inl (by decide)), fun _ hl => ?_, by decide⟩
    · exact absurd hj (by decide)
    · exact absurd hl (by decide)
  obtain ⟨t, ht, hbuf⟩ : ∃ t, (Op.reorder 0 (mpdu 0 4090)).apply .linux t₀ =
      some (t, some .buffered, []) ∧ t.frames 0 = [mpdu 0 4090] := by
    subst h₀
    exact ⟨_, rfl, rfl⟩
  have hr : Runs.Reachable Installed
      (Runs.Guarded (fun t op => op.Harmless .linux t) (Step .linux)) t :=
    .next (.start ⟨4090, 64, by decide, by decide, by decide, by decide, h₀⟩)
      ⟨hok, _, _, ht⟩
  exact ⟨t, hr, hbuf, (buffer_in_window .linux hr).1⟩

/-- Frame 1 is held in a buffer of 64 frames with head 0.  Frame 200 with NSSN 201 moves the head
    to 200 without releasing it. -/
theorem buffer_in_window_fails :
    ¬ ∀ t, Runs.Reachable Installed (Step .linux) t → Disciplined t := by
  intro hall
  have h₀ : Installed (iwlMvmInitReorderBuffer 0 64) :=
    ⟨0, 64, by decide, by decide, by decide, by decide, rfl⟩
  have hstep : ∀ op ∈ [Op.reorder 0 (mpdu 1 0), .reorder 0 (mpdu 200 201)], ∀ t t',
      op.next .linux t = some t' → Step .linux t op t' := fun _ _ _ _ => Op.next_step .linux
  obtain ⟨t, hr, ho⟩ := Runs.exec_observe h₀ _ hstep (fun t => (t.headSn, t.bufSize, t.frames 1))
    (x := (201, 64, [mpdu 1 0])) (by decide)
  simp only [Prod.mk.injEq] at ho
  obtain ⟨hhead, hsize, hheld⟩ := ho
  have hin := ((hall t hr).place 1 (mpdu 1 0) (by rw [hheld]; exact List.mem_singleton.2 rfl)).2
  rw [hhead, hsize] at hin
  revert hin
  decide

end Iwlwifi
