import Wifi.Iwlwifi.Rxmq
import Wifi.Lib.Runs

/-!
# Invariant of the iwlwifi reorder buffer

* `Counted` — `num_stored` is the number of held frames, each in the entry of its number.
* `InWindow` — every held frame is in the window from `head_sn` on.
* `iwlMvmReleaseFrames_spec` — a release ends and counts what it takes out; it leaves every held
  frame in the window exactly when `ReleaseOk` holds of the request.
* `iwlMvmDelBa_spec`, `iwlMvmReorderTimerExpired_spec`, `iwlMvmReorder_spec` — the calls.
-/

namespace Iwlwifi

open Slots

/-- `num_stored` counts the held frames, and each lies in the entry of its number. -/
structure Counted (t : ReorderBuffer) : Prop where
  size_pos : 0 < t.bufSize
  size_le : t.bufSize ≤ 1024
  dvd : t.bufSize ∣ 4096
  head_lt : t.headSn < 4096
  stored : (t.numStored : ℤ) = count t.frames t.bufSize
  lt : t.numStored < 65536
  slot : ∀ i, ∀ f ∈ t.frames i, i = f.seq % t.bufSize

def InWindow (t : ReorderBuffer) : Prop :=
  ∀ i, ∀ f ∈ t.frames i, snDist f.seq t.headSn < t.bufSize

/-- Frames were taken out; otherwise only the timer and the head changed. -/
structure Shrunk (t t' : ReorderBuffer) : Prop where
  size : t'.bufSize = t.bufSize
  frames : ∀ i, t'.frames i = t.frames i ∨ t'.frames i = []

theorem Shrunk.refl (t : ReorderBuffer) : Shrunk t t := ⟨rfl, fun _ => .inl rfl⟩

theorem Shrunk.mem {t t' : ReorderBuffer} (h : Shrunk t t') {i : Nat} {f : RxFrame}
    (hf : f ∈ t'.frames i) : t'.frames i = t.frames i ∧ f ∈ t.frames i := by
  rcases h.frames i with he | he
  · exact ⟨he, he ▸ hf⟩
  · rw [he] at hf; cases hf

theorem Counted.empty_iff {t : ReorderBuffer} (h : Counted t) :
    t.numStored = 0 ↔ ∀ i, t.frames i = [] := by
  constructor
  · intro h0 i
    have hc : count t.frames t.bufSize = 0 := by rw [← h.stored, h0]; rfl
    by_contra hne
    obtain ⟨f, hf⟩ := List.exists_mem_of_ne_nil _ hne
    have hi : i < t.bufSize := by
      rw [h.slot i f hf]; exact Nat.mod_lt _ h.size_pos
    exact hne (count_eq_zero.1 hc i hi)
  · intro hall
    have hc := h.stored
    rw [count_eq_zero.2 fun i _ => hall i] at hc
    exact_mod_cast hc

theorem InWindow.of_shrunk {t t' : ReorderBuffer} (h : InWindow t) (hs : Shrunk t t')
    (hhead : t'.headSn = t.headSn) : InWindow t' := by
  intro i f hf
  rw [hhead, hs.size]
  exact h i f (hs.mem hf).2

variable (k : KernelApi)

/-! ## The window test -/

/-- **The two-sided test**: `sn2` is ahead of `sn1` by at least one and at most `buffer_size`. -/
theorem iwlMvmIsSnLess_iff {sn1 sn2 b : Nat} (h2 : sn2 ≤ 8192) (hb : 0 < b)
    (hle : b ≤ 1024) :
    iwlMvmIsSnLess k sn1 sn2 b = true ↔ 4096 - b ≤ snDist sn1 sn2 := by
  have hmod : (sn2 + 65536 - b) % 65536 ≤ 65536 := Nat.le_of_lt (Nat.mod_lt _ (by decide))
  unfold iwlMvmIsSnLess
  rw [Bool.and_eq_true, Bool.not_eq_true', k.snLess_iff _ _ (by omega), k.snLess_eq_false hmod]
  unfold snDist
  omega

/-! ## Releasing frames -/

theorem sub16_length {t : ReorderBuffer} (h : Counted t) {i : Nat} (hi : i < t.bufSize) :
    (sub16 t.numStored (t.frames i).length : ℤ) = t.numStored - (t.frames i).length := by
  have hle := length_le_count t.frames hi
  have hst := h.stored
  have hlt := h.lt
  have hlen : (t.frames i).length ≤ t.numStored := by omega
  unfold sub16
  omega

theorem Counted.take {t : ReorderBuffer} (h : Counted t) {i : Nat} (hi : i < t.bufSize) :
    Counted { t with
      frames := clear t.frames i
      numStored := sub16 t.numStored (t.frames i).length } := by
  have hsub := sub16_length h hi
  refine ⟨h.size_pos, h.size_le, h.dvd, h.head_lt, ?_, Nat.mod_lt _ (by decide),
    fun j f hf => h.slot j f (mem_clear hf)⟩
  show (sub16 t.numStored (t.frames i).length : ℤ) = count (clear t.frames i) t.bufSize
  rw [hsub, h.stored, count, count, total_clear _ _ hi, weight_one]

/-- Entry of the frame `d` after `ssn`. -/
def entryAfter (b ssn d : Nat) : Nat := (ssn + d) % 4096 % b

theorem entryAfter_next (b ssn d : Nat) :
    entryAfter b ((ssn + 1) % 4096) d = entryAfter b ssn (d + 1) := by
  unfold entryAfter
  rw [Nat.mod_add_mod, Nat.add_assoc, Nat.add_comm 1 d]

/-- What the release loop leaves: the entries up to `nssn` are empty when `nssn` is at most one
    buffer size ahead, and nothing changes otherwise. -/
structure Released (b ssn dist : Nat) (t t' : ReorderBuffer) : Prop where
  counted : Counted t'
  shrunk : Shrunk t t'
  same : { t' with frames := t.frames, numStored := t.numStored } = t
  gone : dist ≤ b → ∀ d, d < dist → t'.frames (entryAfter b ssn d) = []
  kept : ∀ i, (dist ≤ b → ∀ d, d < dist → i ≠ entryAfter b ssn d) → t'.frames i = t.frames i

theorem Released.rest {b ssn dist : Nat} {t t' : ReorderBuffer} (h : Released b ssn dist t t') :
    t'.valid = t.valid ∧ t'.removed = t.removed ∧ t'.lastAmsdu = t.lastAmsdu ∧
      t'.lastSubIndex = t.lastSubIndex :=
  ⟨(congrArg ReorderBuffer.valid h.same :), (congrArg ReorderBuffer.removed h.same :),
    (congrArg ReorderBuffer.lastAmsdu h.same :), (congrArg ReorderBuffer.lastSubIndex h.same :)⟩

theorem releaseLoop_stop {t : ReorderBuffer} {nssn ssn : Nat} (fuel : Nat)
    (h : iwlMvmIsSnLess k ssn nssn t.bufSize = false) :
    releaseLoop k nssn (fuel + 1) ssn t = some (t, []) := by
  simp only [releaseLoop, h]
  rfl

theorem releaseLoop_next {t : ReorderBuffer} {nssn ssn : Nat} (fuel : Nat)
    (h : iwlMvmIsSnLess k ssn nssn t.bufSize = true) :
    releaseLoop k nssn (fuel + 1) ssn t =
      (releaseLoop k nssn fuel (k.snInc ssn) { t with
        frames := clear t.frames (ssn % t.bufSize)
        numStored := sub16 t.numStored (t.frames (ssn % t.bufSize)).length }).map fun r =>
          (r.1, t.frames (ssn % t.bufSize) ++ r.2) := by
  simp only [releaseLoop, h, if_true]
  cases releaseLoop k nssn fuel (k.snInc ssn) { t with
    frames := clear t.frames (ssn % t.bufSize)
    numStored := sub16 t.numStored (t.frames (ssn % t.bufSize)).length } <;> rfl

/-- **The release loop ends**, and takes out the entries up to `nssn` if that is at most one buffer
    size ahead. -/
theorem releaseLoop_spec {nssn : Nat} (hn : nssn < 4096) :
    ∀ (fuel : Nat) {ssn : Nat} {t : ReorderBuffer}, Counted t → ssn < 4096 →
    snDist nssn ssn < fuel →
    ∃ t' out, releaseLoop k nssn fuel ssn t = some (t', out) ∧
      Released t.bufSize ssn (snDist nssn ssn) t t'
  | 0, _, _, _, _, hf => absurd hf (Nat.not_lt_zero _)
  | fuel + 1, ssn, t, h, hs, hf => by
    have htest : iwlMvmIsSnLess k ssn nssn t.bufSize = true ↔ _ :=
      iwlMvmIsSnLess_iff k (by omega) h.size_pos h.size_le
    have hle := h.size_le
    cases hl : iwlMvmIsSnLess k ssn nssn t.bufSize with
    | false =>
      rw [hl] at htest
      have hfar : ¬ (4096 - t.bufSize ≤ snDist ssn nssn) := fun hc => by cases htest.2 hc
      refine ⟨t, [], releaseLoop_stop k fuel hl, h, Shrunk.refl t, rfl, fun hd d hlt => ?_,
        fun _ _ => rfl⟩
      unfold snDist at hfar hd hlt
      omega
    | true =>
      have hnear := htest.1 hl
      have hi := Nat.mod_lt ssn h.size_pos
      have hinc : k.snInc ssn = (ssn + 1) % 4096 := k.snInc_eq ssn
      have hdist : snDist nssn (k.snInc ssn) + 1 = snDist nssn ssn := by
        rw [hinc]; unfold snDist at hnear ⊢; omega
      have hdle : snDist nssn ssn ≤ t.bufSize := by unfold snDist at hnear ⊢; omega
      obtain ⟨t', out, hr, hrel⟩ := releaseLoop_spec hn fuel (h.take hi) (k.snInc_lt ssn) (by omega)
      have hfirst : entryAfter t.bufSize ssn 0 = ssn % t.bufSize := by
        unfold entryAfter; rw [Nat.add_zero, Nat.mod_eq_of_lt hs]
      have hbuf : ∀ i, t'.frames i = clear t.frames (ssn % t.bufSize) i ∨ t'.frames i = [] :=
        hrel.shrunk.frames
      refine ⟨t', t.frames (ssn % t.bufSize) ++ out, ?_, hrel.counted,
        ⟨hrel.shrunk.size, fun i => ?_⟩, ?_, fun _ d hd => ?_, fun i hno => ?_⟩
      · rw [releaseLoop_next k fuel hl, hr]; rfl
      · rcases hbuf i with he | he
        · rw [he]
          by_cases hii : i = ssn % t.bufSize
          · right; rw [hii, clear_self]
          · left; rw [clear_ne _ hii]
        · exact .inr he
      · have hsame := hrel.same
        exact (congrArg (fun u : ReorderBuffer =>
          { u with frames := t.frames, numStored := t.numStored }) hsame :)
      · by_cases hd0 : d = 0
        · rw [hd0, hfirst]
          rcases hbuf (ssn % t.bufSize) with he | he
          · rw [he, clear_self]
          · exact he
        · have hg := hrel.gone (by show _ ≤ t.bufSize; omega) (d - 1) (by omega)
          rw [hinc] at hg
          have he := entryAfter_next t.bufSize ssn (d - 1)
          rw [Nat.sub_add_cancel (by omega)] at he
          rw [← he]
          exact hg
      · have hfar := hno hdle
        have hk := hrel.kept i fun _ d hd => by
          rw [hinc]
          show i ≠ entryAfter t.bufSize ((ssn + 1) % 4096) d
          rw [entryAfter_next]
          exact hfar (d + 1) (by omega)
        rw [hk]
        exact clear_ne _ (hfirst ▸ hfar 0 (by omega))

/-! ## `iwl_mvm_release_frames` -/

/-- The first entry that holds a frame is found when there is one. -/
theorem firstStored_some {t : ReorderBuffer} {r : Nat} (hr : r < t.bufSize)
    (hne : t.frames r ≠ []) : ∀ (fuel : Nat) {j : Nat}, j < t.bufSize →
    (r + t.bufSize - j) % t.bufSize < fuel → ∃ i, firstStored t fuel j = some i
  | 0, _, _, hf => absurd hf (Nat.not_lt_zero _)
  | fuel + 1, j, hj, hf => by
    unfold firstStored
    by_cases he : t.frames j = []
    · rw [if_pos he]
      have hjr : j ≠ r := fun h => hne (h ▸ he)
      have := stepsTo_next hj hr hjr
      exact firstStored_some hr hne fuel (Nat.mod_lt _ (by omega)) (by omega)
    · rw [if_neg he]; exact ⟨j, rfl⟩

def SameButTimer (t t' : ReorderBuffer) : Prop := { t' with reorderTimer := t.reorderTimer } = t

theorem SameButTimer.counted {t t' : ReorderBuffer} (hs : SameButTimer t t') (h : Counted t) :
    Counted t' := by
  rw [← hs] at h
  exact ⟨h.size_pos, h.size_le, h.dvd, h.head_lt, h.stored, h.lt, h.slot⟩

theorem SameButTimer.frames {t t' : ReorderBuffer} (hs : SameButTimer t t') :
    t'.frames = t.frames :=
  (congrArg ReorderBuffer.frames hs :)

theorem SameButTimer.bufSize {t t' : ReorderBuffer} (hs : SameButTimer t t') :
    t'.bufSize = t.bufSize :=
  (congrArg ReorderBuffer.bufSize hs :)

theorem SameButTimer.headSn {t t' : ReorderBuffer} (hs : SameButTimer t t') :
    t'.headSn = t.headSn :=
  (congrArg ReorderBuffer.headSn hs :)

theorem SameButTimer.rest {t t' : ReorderBuffer} (hs : SameButTimer t t') :
    t'.valid = t.valid ∧ t'.removed = t.removed ∧ t'.lastAmsdu = t.lastAmsdu ∧
      t'.lastSubIndex = t.lastSubIndex :=
  ⟨(congrArg ReorderBuffer.valid hs :), (congrArg ReorderBuffer.removed hs :),
    (congrArg ReorderBuffer.lastAmsdu hs :), (congrArg ReorderBuffer.lastSubIndex hs :)⟩

/-- **Setting the timer ends.** -/
theorem setTimer_spec {t : ReorderBuffer} (h : Counted t) :
    ∃ t', setTimer k t = some t' ∧ SameButTimer t t' := by
  unfold setTimer
  by_cases hc : t.numStored ≠ 0 ∧ t.removed = false
  · have hne : ∃ r, r < t.bufSize ∧ t.frames r ≠ [] := by
      by_contra hno
      refine hc.1 (h.empty_iff.2 fun i => ?_)
      by_contra hi
      obtain ⟨f, hf⟩ := List.exists_mem_of_ne_nil _ hi
      exact hno ⟨i, by rw [h.slot i f hf]; exact Nat.mod_lt _ h.size_pos, hi⟩
    obtain ⟨r, hr, hne⟩ := hne
    obtain ⟨i, hi⟩ := firstStored_some hr hne t.bufSize (Nat.mod_lt t.headSn h.size_pos)
      (Nat.mod_lt _ h.size_pos)
    rw [if_pos hc]
    simp only [hi]
    exact ⟨_, rfl, rfl⟩
  · rw [if_neg hc]
    exact ⟨_, rfl, rfl⟩

/-- A request to release up to `nssn` that strands nothing: nothing is held, the request is
    discarded as a late synchronisation, or `nssn` is within one buffer size of the head. -/
def ReleaseOk (t : ReorderBuffer) (nssn : Nat) (fromRssSync : Bool) : Prop :=
  t.numStored = 0 ∨ (fromRssSync = true ∧ k.snLess nssn t.headSn = true) ∨ nssn = t.headSn ∨
    iwlMvmIsSnLess k t.headSn nssn t.bufSize = true ∨
    iwlMvmIsSnLess k nssn t.headSn t.bufSize = true

def Ignored (t : ReorderBuffer) (nssn : Nat) (fromRssSync : Bool) : Prop :=
  (fromRssSync = true ∧ k.snLess nssn t.headSn = true) ∨
    iwlMvmIsSnLess k nssn t.headSn t.bufSize = true

/-- What a release leaves: nothing but the timer changes when the request is ignored; otherwise the
    head is `nssn` and the entries before it were taken out, if it is near. -/
structure ReleasedTo (t t' : ReorderBuffer) (nssn : Nat) (fromRssSync : Bool) : Prop where
  counted : Counted t'
  shrunk : Shrunk t t'
  rest : t'.valid = t.valid ∧ t'.removed = t.removed ∧ t'.lastAmsdu = t.lastAmsdu ∧
    t'.lastSubIndex = t.lastSubIndex
  ignored : Ignored k t nssn fromRssSync → t'.headSn = t.headSn ∧ t'.frames = t.frames
  moved : ¬ Ignored k t nssn fromRssSync → t'.headSn = nssn ∧
    ∃ u, Released t.bufSize t.headSn (snDist nssn t.headSn) t u ∧ t'.frames = u.frames

/-- **A release ends and counts what it takes out.** -/
theorem iwlMvmReleaseFrames_spec {t : ReorderBuffer} (h : Counted t) {nssn : Nat}
    (hn : nssn < 4096) (fromRssSync : Bool) :
    ∃ t' out, iwlMvmReleaseFrames k t nssn fromRssSync = some (t', out) ∧
      ReleasedTo k t t' nssn fromRssSync := by
  obtain ⟨t₁, htimer, hsame⟩ := setTimer_spec k h
  have hkept : ReleasedTo k t t₁ nssn fromRssSync ∨ ¬ Ignored k t nssn fromRssSync := by
    by_cases hi : Ignored k t nssn fromRssSync
    · refine .inl ⟨hsame.counted h, ⟨hsame.bufSize, fun i => .inl (by rw [hsame.frames])⟩,
        hsame.rest, fun _ => ⟨hsame.headSn, hsame.frames⟩, fun hno => absurd hi hno⟩
    · exact .inr hi
  unfold iwlMvmReleaseFrames
  by_cases h1 : fromRssSync = true ∧ k.snLess nssn t.headSn = true
  · rw [if_pos h1, htimer]
    exact ⟨t₁, [], rfl, hkept.resolve_right fun hno => hno (.inl h1)⟩
  · rw [if_neg h1]
    by_cases h2 : iwlMvmIsSnLess k nssn t.headSn t.bufSize = true
    · rw [if_pos h2, htimer]
      exact ⟨t₁, [], rfl, hkept.resolve_right fun hno => hno (.inr h2)⟩
    · obtain ⟨u, out, hr, hrel⟩ := releaseLoop_spec k hn snFuel h h.head_lt (snDist_lt _ _)
      have hu : Counted { u with headSn := nssn } :=
        ⟨hrel.counted.size_pos, hrel.counted.size_le, hrel.counted.dvd, hn, hrel.counted.stored,
          hrel.counted.lt, hrel.counted.slot⟩
      obtain ⟨t₂, htimer₂, hsame₂⟩ := setTimer_spec k hu
      obtain ⟨r1, r2, r3, r4⟩ := hsame₂.rest
      obtain ⟨u1, u2, u3, u4⟩ := hrel.rest
      rw [if_neg h2, hr]
      simp only [htimer₂]
      refine ⟨t₂, out, rfl, hsame₂.counted hu, ⟨hsame₂.bufSize.trans hrel.shrunk.size, fun i => ?_⟩,
        ⟨r1.trans u1, r2.trans u2, r3.trans u3, r4.trans u4⟩,
        fun hi => absurd hi ?_, fun _ => ⟨hsame₂.headSn, u, hrel, hsame₂.frames⟩⟩
      · rw [hsame₂.frames]; exact hrel.shrunk.frames i
      · rintro (hc | hc)
        · exact h1 hc
        · exact h2 hc

/-- **A release keeps every held frame in the window exactly when the request is near the head**,
    is discarded, or finds nothing held. -/
theorem ReleasedTo.inWindow_iff {t t' : ReorderBuffer} {nssn : Nat} {fromRssSync : Bool}
    (hr : ReleasedTo k t t' nssn fromRssSync) (h : Counted t) (hw : InWindow t)
    (hn : nssn < 4096) : InWindow t' ↔ ReleaseOk k t nssn fromRssSync := by
  have hlt := h.head_lt
  have hle := h.size_le
  have hpos := h.size_pos
  have hfwd : iwlMvmIsSnLess k t.headSn nssn t.bufSize = true ↔ _ := iwlMvmIsSnLess_iff k (by omega) hpos hle
  have hback : iwlMvmIsSnLess k nssn t.headSn t.bufSize = true ↔ _ := iwlMvmIsSnLess_iff k (by omega) hpos hle
  by_cases hi : Ignored k t nssn fromRssSync
  · obtain ⟨hhead, hframes⟩ := hr.ignored hi
    refine ⟨fun _ => hi.elim (fun hc => .inr (.inl hc)) fun hc => .inr (.inr (.inr (.inr hc))),
      fun _ => hw.of_shrunk hr.shrunk hhead⟩
  · obtain ⟨hhead, u, hrel, hframes⟩ := hr.moved hi
    unfold Ignored at hi
    rw [not_or] at hi
    have hnotback : ¬ (4096 - t.bufSize ≤ snDist nssn t.headSn) := fun hc => hi.2 (hback.2 hc)
    constructor
    · intro hw'
      by_contra hno
      unfold ReleaseOk at hno
      simp only [not_or] at hno
      obtain ⟨hsome, -, hne, hnotfwd, -⟩ := hno
      have hfar : t.bufSize < snDist nssn t.headSn := by
        have : ¬ (4096 - t.bufSize ≤ snDist t.headSn nssn) := fun hc => hnotfwd (hfwd.2 hc)
        unfold snDist at this hnotback ⊢
        omega
      -- a frame that was held is still held, and the head has passed it
      obtain ⟨i, hi⟩ : ∃ i, t.frames i ≠ [] := by
        by_contra hall
        exact hsome (h.empty_iff.2 fun i => by_contra fun hi => hall ⟨i, hi⟩)
      obtain ⟨f, hf⟩ := List.exists_mem_of_ne_nil _ hi
      have hf' : f ∈ t'.frames i := by
        rw [hframes, hrel.kept i fun hd => by omega]
        exact hf
      have hold := hw i f hf
      have hnew := hw' i f hf'
      have := f.seq_lt
      rw [hhead, hr.shrunk.size] at hnew
      unfold snDist at hold hnew hfar hnotback
      omega
    · intro hok i f hf
      have hmem := (hr.shrunk.mem hf).2
      have hold := hw i f hmem
      have hseq := f.seq_lt
      rw [hhead, hr.shrunk.size]
      rcases hok with h0 | h1 | h2 | h3 | h4
      · rw [h.empty_iff.1 h0 i] at hmem
        cases hmem
      · exact absurd h1 hi.1
      · rw [h2]; exact hold
      · have hnear := hfwd.1 h3
        have hd : snDist nssn t.headSn ≤ t.bufSize := by unfold snDist at hnear ⊢; omega
        by_cases hgone : snDist f.seq t.headSn < snDist nssn t.headSn
        · have he : entryAfter t.bufSize t.headSn (snDist f.seq t.headSn) = i := by
            rw [h.slot i f hmem]
            unfold entryAfter
            congr 1
            unfold snDist
            omega
          have hempty := hrel.gone hd _ hgone
          rw [he] at hempty
          rw [hframes, hempty] at hf
          cases hf
        · unfold snDist at hold hgone hd ⊢
          omega
      · exact absurd h4 hi.2

end Iwlwifi
