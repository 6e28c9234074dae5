import Wifi.Wireless.ChanJoin

/-!
# The walks over the sub-channels of a chandef (`linux/net/wireless/chan.c`)

* `writerFreqs`, `requiredFreqs`, `usableFreqs`, `availableFreqs`, `cacTimeFreqs` — the frequencies that each walk looks up.
* `inspected` — the channels with radar detection that a walk comes to; `setDfsState_at` — those of the writer are written.
* `WalksAgree` — all walks come to the same channels, and what the writer sets is what the readers see.
* `walks_agree_iff` — exactly when no such channel is at a frequency that only some of the walks look up, and which these are:
  widths below 20 MHz, and chandefs with an offset.
* `dfs_life_cycle` — when a check may start, how long it takes, and what the states that are set mean.
-/

namespace Wireless.Dfs

open Wireless.Chan

/-- The helper of `cfg80211.h` that converts the center of a chandef. -/
structure Khz (hd : Header) : Prop where
  chandef : ∀ c, hd.chandefToKhz c = mhzToKhz c.centerFreq1 + c.freq1Offset.zeroExtend 32

variable (hd : Header)

/-! ## The frequencies that are looked up -/

def writerFreqs (c : ChanDef) : List (BitVec 32) :=
  (writerSeg c.centerFreq1 (getWidth c) ++
    if c.centerFreq2 = 0 then [] else writerSeg c.centerFreq2 (getWidth c)).map mhzToKhz

def requiredFreqs (c : ChanDef) : List (BitVec 32) :=
  readerSeg (hd.chandefToKhz c) (getWidth c) ++
    if c.centerFreq2 = 0 then [] else readerSeg (mhzToKhz c.centerFreq2) (getWidth c)

def usableFreqs (c : ChanDef) : List (BitVec 32) :=
  readerSeg (mhzToKhz c.centerFreq1) (getWidth c) ++
    if c.width = .w80p80 then readerSeg (mhzToKhz c.centerFreq2) (getWidth c) else []

def availableFreqs (c : ChanDef) : List (BitVec 32) :=
  readerSeg (mhzToKhz c.centerFreq1) (getWidth c) ++
    if c.width = .w80p80 then readerSeg (mhzToKhz c.centerFreq2) (getWidth c) else []

def cacTimeFreqs (c : ChanDef) : List (BitVec 32) :=
  readerSeg (mhzToKhz c.centerFreq1) (getWidth c) ++
    if c.centerFreq2 = 0 then [] else readerSeg (mhzToKhz c.centerFreq2) (getWidth c)

/-- **The channels with radar detection** that a walk over these frequencies comes to. -/
def inspected (t : Table) (freqs : List (BitVec 32)) : Set Nat :=
  {i | (t.at i).radar = true ∧ ∃ freq ∈ freqs, getChannelKhz hd t freq = some i}

/-- **All walks agree**: what is set available is available, and what is set unavailable is not. -/
structure WalksAgree (t : Table) (c : ChanDef) : Prop where
  required : inspected hd t (writerFreqs c) = inspected hd t (requiredFreqs hd c)
  usable : inspected hd t (writerFreqs c) = inspected hd t (usableFreqs c)
  available : inspected hd t (writerFreqs c) = inspected hd t (availableFreqs c)
  cacTime : inspected hd t (writerFreqs c) = inspected hd t (cacTimeFreqs c)
  afterAvailable : ∀ now dfsOffload,
    (∀ freq ∈ availableFreqs c, ∃ i, getChannelKhz hd t freq = some i ∧ (t.at i).disabled = false) →
    chandefDfsAvailable hd (setDfsState hd now t c .available) dfsOffload c = true
  afterUnavailable : ∀ now dfsOffload, (inspected hd t (availableFreqs c)).Nonempty →
    chandefDfsAvailable hd (setDfsState hd now t c .unavailable) dfsOffload c = false

/-- All walks look up the frequency, or none does. -/
def AllOrNone (c : ChanDef) (freq : BitVec 32) : Prop :=
  (freq ∈ writerFreqs c ↔ freq ∈ requiredFreqs hd c) ∧ (freq ∈ writerFreqs c ↔ freq ∈ usableFreqs c) ∧
    (freq ∈ writerFreqs c ↔ freq ∈ availableFreqs c) ∧ (freq ∈ writerFreqs c ↔ freq ∈ cacTimeFreqs c)

/-- The condition: **no channel with radar detection is at a frequency that only some of the walks look up.** -/
def NoneMissed (t : Table) (c : ChanDef) : Prop :=
  ∀ i freq, getChannelKhz hd t freq = some i → (t.at i).radar = true → AllOrNone hd c freq

/-- The center of a sub-channel, in kHz, of a segment around `center`. -/
def SubChannel (center width freq : Nat) : Prop :=
  (width ≤ 20 ∧ freq = center) ∨ (20 < width ∧ ∃ n < width / 20, freq + 500 * width = center + 10000 + 20000 * n)

/-- The frequencies that only some of the walks look up, for centers whose sub-channels fit into 32 bits in kHz: those of the first
    segment, with and without the offset, unless they are in the second one. -/
def OnlySome (c : ChanDef) (freq : BitVec 32) : Prop :=
  (c.width.mhz < 20 ∨ c.freq1Offset ≠ 0) ∧
    (SubChannel (1000 * c.centerFreq1.toNat) c.width.mhz freq.toNat ∨
      SubChannel (1000 * c.centerFreq1.toNat + c.freq1Offset.toNat) c.width.mhz freq.toNat) ∧
    ¬ (c.centerFreq2 ≠ 0 ∧ SubChannel (1000 * c.centerFreq2.toNat) c.width.mhz freq.toNat)

/-- A center of 160 MHz at least, and of 4294 GHz at most. -/
def CenterFits (center : BitVec 32) : Prop := 160 ≤ center.toNat ∧ center.toNat ≤ 4294000

def CentersFit (c : ChanDef) : Prop := CenterFits c.centerFreq1 ∧ (c.centerFreq2 ≠ 0 → CenterFits c.centerFreq2)

variable {hd}

/-! ## Loops -/

theorem freqsFrom_empty {freq endFreq : BitVec 32} (step : BitVec 32) (hlt : endFreq < freq) (fuel : Nat) :
    freqsFrom endFreq step fuel freq = [] := by
  cases fuel with
  | zero => rfl
  | succ fuel =>
    unfold freqsFrom
    rw [if_neg (BitVec.not_le.mpr hlt)]

/-- **The frequencies of a loop** that does not wrap around. -/
theorem mem_freqsFrom {endFreq step : BitVec 32} (hfit : endFreq.toNat + step.toNat < 2 ^ 32) (k : Nat) {fuel : Nat}
    {start : BitVec 32} (hfuel : k + 1 < fuel) (hlast : start.toNat + step.toNat * k ≤ endFreq.toNat)
    (hnext : endFreq.toNat < start.toNat + step.toNat * (k + 1)) (freq : BitVec 32) :
    freq ∈ freqsFrom endFreq step fuel start ↔ ∃ n ≤ k, freq.toNat = start.toNat + step.toNat * n := by
  induction k generalizing fuel start with
  | zero =>
    obtain ⟨fuel, rfl⟩ : ∃ m, fuel = m + 1 := ⟨fuel - 1, by omega⟩
    have hle : start ≤ endFreq := BitVec.le_def.mpr (by simpa using hlast)
    have hsum : (start + step).toNat = start.toNat + step.toNat := BitVec.toNat_add_of_lt (by omega)
    have hpast : endFreq < start + step := BitVec.lt_def.mpr (by rw [hsum]; omega)
    rw [freqsFrom, if_pos hle, freqsFrom_empty step hpast, List.mem_singleton]
    constructor
    · rintro rfl
      exact ⟨0, Nat.le_refl 0, by simp⟩
    · rintro ⟨n, hn, heq⟩
      obtain rfl : n = 0 := Nat.le_zero.mp hn
      exact BitVec.eq_of_toNat_eq (by simpa using heq)
  | succ k ih =>
    obtain ⟨fuel, rfl⟩ : ∃ m, fuel = m + 1 := ⟨fuel - 1, by omega⟩
    have hmul : step.toNat * (k + 1) = step.toNat * k + step.toNat := Nat.mul_succ _ _
    have hmul' : step.toNat * (k + 1 + 1) = step.toNat * (k + 1) + step.toNat := Nat.mul_succ _ _
    have hle : start ≤ endFreq := BitVec.le_def.mpr (by omega)
    have hsum : (start + step).toNat = start.toNat + step.toNat := BitVec.toNat_add_of_lt (by omega)
    rw [freqsFrom, if_pos hle, List.mem_cons, ih (by omega) (by omega) (by omega), hsum]
    constructor
    · rintro (rfl | ⟨n, hn, heq⟩)
      · exact ⟨0, Nat.zero_le _, by simp⟩
      · exact ⟨n + 1, by omega, by rw [heq, Nat.mul_succ]; omega⟩
    · rintro ⟨n, hn, heq⟩
      cases n with
      | zero => exact .inl (BitVec.eq_of_toNat_eq (by simpa using heq))
      | succ n => exact .inr ⟨n, by omega, by rw [heq, Nat.mul_succ]; omega⟩

/-- **The readers' loop.** -/
theorem mem_readerSeg {center : BitVec 32} {width : Nat} (hwidth : width ≤ 20 ∨ ∃ m, width = 20 * m ∧ m ≤ 16)
    (hlow : 160000 ≤ center.toNat) (hhigh : center.toNat ≤ 4294001000) (freq : BitVec 32) :
    freq ∈ readerSeg center (BitVec.ofNat 32 width) ↔ SubChannel center.toNat width freq.toNat := by
  have hsmall : width ≤ 320 := by
    rcases hwidth with h | ⟨m, rfl, hm⟩
    · omega
    · omega
  have hkhz : (mhzToKhz (BitVec.ofNat 32 width)).toNat = 1000 * width := by
    unfold mhzToKhz
    rw [BitVec.toNat_mul, BitVec.toNat_ofNat]
    simp
    omega
  have h20 : (mhzToKhz 20).toNat = 20000 := rfl
  have h10 : (mhzToKhz 10).toNat = 10000 := rfl
  have hhalf : (mhzToKhz (BitVec.ofNat 32 width) / 2).toNat = 500 * width := by
    rw [BitVec.toNat_udiv, hkhz]
    simp
    omega
  unfold readerSeg freqLoop getStartFreq getEndFreq SubChannel
  by_cases hle : width ≤ 20
  · have htest : mhzToKhz (BitVec.ofNat 32 width) ≤ mhzToKhz 20 := BitVec.le_def.mpr (by rw [hkhz, h20]; omega)
    simp only [htest, if_true]
    rw [mem_freqsFrom (by rw [h20]; omega) 0 (by omega) (by simp) (by rw [h20]; omega)]
    constructor
    · rintro ⟨n, hn, heq⟩
      obtain rfl : n = 0 := Nat.le_zero.mp hn
      exact .inl ⟨hle, by simpa using heq⟩
    · rintro (⟨_, heq⟩ | ⟨hgt, _⟩)
      · exact ⟨0, Nat.le_refl 0, by simpa using heq⟩
      · omega
  · obtain ⟨m, rfl, hm⟩ := hwidth.resolve_left hle
    have htest : ¬ mhzToKhz (BitVec.ofNat 32 (20 * m)) ≤ mhzToKhz 20 := by
      rw [BitVec.le_def, hkhz, h20]
      omega
    simp only [htest, if_false]
    have hstart : (center - mhzToKhz (BitVec.ofNat 32 (20 * m)) / 2 + mhzToKhz 10).toNat =
        center.toNat - 10000 * m + 10000 := by
      rw [BitVec.toNat_add, BitVec.toNat_sub, hhalf, h10]
      omega
    have hend : (center + mhzToKhz (BitVec.ofNat 32 (20 * m)) / 2 - mhzToKhz 10).toNat =
        center.toNat + 10000 * m - 10000 := by
      rw [BitVec.toNat_sub, BitVec.toNat_add, hhalf, h10]
      omega
    rw [mem_freqsFrom (by rw [hend, h20]; omega) (m - 1) (by omega) (by rw [hstart, hend, h20]; omega)
      (by rw [hstart, hend, h20]; omega), hstart, h20]
    constructor
    · rintro ⟨n, hn, heq⟩
      exact .inr ⟨by omega, n, by omega, by omega⟩
    · rintro (⟨h, _⟩ | ⟨_, n, hn, heq⟩)
      · omega
      · exact ⟨n, by omega, by omega⟩

/-- **The writer's loop**: it is empty below 20 MHz. -/
theorem mem_writerSeg {center : BitVec 32} {width : Nat} (hwidth : (width < 20 ∧ width ≤ 16) ∨ ∃ m, width = 20 * m ∧ 0 < m ∧ m ≤ 16)
    (hfits : CenterFits center) (freq : BitVec 32) :
    freq ∈ (writerSeg center (BitVec.ofNat 32 width)).map mhzToKhz ↔
      20 ≤ width ∧ SubChannel (1000 * center.toNat) width freq.toNat := by
  obtain ⟨hlow, hhigh⟩ := hfits
  have hsmall : width ≤ 320 := by
    rcases hwidth with ⟨_, h⟩ | ⟨m, rfl, _, hm⟩
    · omega
    · omega
  have hhalf : (BitVec.ofNat 32 width / 2).toNat = width / 2 := by
    rw [BitVec.toNat_udiv, BitVec.toNat_ofNat]
    simp
    omega
  have hstart : (center - BitVec.ofNat 32 width / 2 + 10).toNat = center.toNat - width / 2 + 10 := by
    rw [BitVec.toNat_add, BitVec.toNat_sub, hhalf]
    clear hwidth
    simp
    omega
  have hend : (center + BitVec.ofNat 32 width / 2 - 10).toNat = center.toNat + width / 2 - 10 := by
    rw [BitVec.toNat_sub, BitVec.toNat_add, hhalf]
    clear hwidth
    simp
    omega
  have h20 : (20 : BitVec 32).toNat = 20 := rfl
  unfold writerSeg freqLoop
  rcases hwidth with ⟨hlt, hle⟩ | ⟨m, rfl, hpos, hm⟩
  · have hpast : center + BitVec.ofNat 32 width / 2 - 10 < center - BitVec.ofNat 32 width / 2 + 10 := by
      rw [BitVec.lt_def, hstart, hend]
      omega
    rw [freqsFrom_empty _ hpast]
    exact iff_of_false nofun fun h => absurd h.1 (by omega)
  · have hmem : ∀ mhz, mhz ∈ freqsFrom (center + BitVec.ofNat 32 (20 * m) / 2 - 10) 20 4294967296
        (center - BitVec.ofNat 32 (20 * m) / 2 + 10) ↔ ∃ n ≤ m - 1, mhz.toNat =
          (center - BitVec.ofNat 32 (20 * m) / 2 + 10).toNat + (20 : BitVec 32).toNat * n :=
      mem_freqsFrom (by rw [hend, h20]; omega) (m - 1) (by omega) (by rw [hstart, hend, h20]; omega)
        (by rw [hstart, hend, h20]; omega)
    rw [List.mem_map]
    constructor
    · rintro ⟨mhz, hmhz, rfl⟩
      obtain ⟨n, hn, heq⟩ := (hmem mhz).mp hmhz
      rw [hstart, h20] at heq
      have hkhz : (mhzToKhz mhz).toNat = 1000 * mhz.toNat := by
        unfold mhzToKhz
        rw [BitVec.toNat_mul]
        simp
        omega
      rw [hkhz]
      refine ⟨by omega, ?_⟩
      unfold SubChannel
      by_cases hone : m = 1
      · exact .inl ⟨by omega, by omega⟩
      · exact .inr ⟨by omega, n, by omega, by omega⟩
    · rintro ⟨_, hsub⟩
      have hn : ∃ n ≤ m - 1, freq.toNat = 1000 * (center.toNat - 10 * m + 10 + 20 * n) := by
        rcases hsub with ⟨hle, heq⟩ | ⟨_, n, hn, heq⟩
        · exact ⟨0, Nat.zero_le _, by omega⟩
        · exact ⟨n, by omega, by omega⟩
      obtain ⟨n, hn, heq⟩ := hn
      refine ⟨BitVec.ofNat 32 (center.toNat - 10 * m + 10 + 20 * n), (hmem _).mpr ⟨n, hn, ?_⟩, ?_⟩
      · rw [hstart, h20, BitVec.toNat_ofNat]
        omega
      · apply BitVec.eq_of_toNat_eq
        unfold mhzToKhz
        rw [BitVec.toNat_mul, BitVec.toNat_ofNat, heq]
        simp
        omega

/-! ## Which frequencies only some walks look up -/

/-- What the checks of `cfg80211_chandef_valid` say about the second center and the offset. -/
theorem valid_centers {c : ChanDef} (hvalid : c.valid hd = true) :
    (c.centerFreq2 ≠ 0 ↔ c.width = .w80p80) ∧ c.freq1Offset.toNat < 1000 := by
  cases hchan : c.chan with
  | none =>
    rw [ChanDef.valid, hchan] at hvalid
    cases hvalid
  | some chan =>
    rw [ChanDef.valid, hchan] at hvalid
    simp only [Bool.and_eq_true, decide_eq_true_eq] at hvalid
    obtain ⟨⟨⟨⟨⟨hoff, hfreqs⟩, _⟩, _⟩, _⟩, _⟩ := hvalid
    refine ⟨?_, BitVec.lt_def.mp hoff⟩
    unfold ChanDef.validFreqs at hfreqs
    cases hwidth : c.width <;> rw [hwidth] at hfreqs <;> simp only [Bool.and_eq_true, decide_eq_true_eq] at hfreqs <;>
      first | exact iff_of_false (fun hne => hne hfreqs) (by decide) | exact iff_of_false (fun hne => hne hfreqs.2) (by decide) |
        exact iff_of_true hfreqs.1 rfl | exact iff_of_false (fun hne => hne hfreqs.1.1.2) (by decide)

theorem width_cases (w : Width) : (w.mhz < 20 ∧ w.mhz ≤ 16) ∨ ∃ m, w.mhz = 20 * m ∧ 0 < m ∧ m ≤ 16 := by
  cases w
  case w5 | w10 | w1 | w2 | w4 | w8 | w16 => exact .inl ⟨by decide, by decide⟩
  case w20NoHt | w20 => exact .inr ⟨1, rfl, by decide, by decide⟩
  case w40 => exact .inr ⟨2, rfl, by decide, by decide⟩
  case w80 | w80p80 => exact .inr ⟨4, rfl, by decide, by decide⟩
  case w160 => exact .inr ⟨8, rfl, by decide, by decide⟩
  case w320 => exact .inr ⟨16, rfl, by decide, by decide⟩

/-- No frequency is a sub-channel with and without the offset. -/
theorem subChannel_offset {center width freq off : Nat} (hpos : 0 < off) (hoff : off < 1000) (hsub : SubChannel center width freq) :
    ¬ SubChannel (center + off) width freq := by
  rintro hsub'
  rcases hsub with ⟨hle, heq⟩ | ⟨hgt, n, _, heq⟩
  · rcases hsub' with ⟨_, heq'⟩ | ⟨hgt, _⟩
    · omega
    · omega
  · rcases hsub' with ⟨hle, _⟩ | ⟨_, n', _, heq'⟩
    · omega
    · omega

/-- One segment, looked up without (`S`) and with the offset (`S'`); `W`: the writer's loop is not empty. -/
theorem one_segment {W O S S' : Prop} (hsame : ¬ O → (S' ↔ S)) (hdiffers : O → S → ¬ S') :
    ((W ∧ S ↔ S') ∧ (W ∧ S ↔ S) ∧ (W ∧ S ↔ S) ∧ (W ∧ S ↔ S)) ↔ ¬ ((¬ W ∨ O) ∧ (S ∨ S')) := by
  tauto

/-- Two segments. -/
theorem two_segments {O S S' T : Prop} (hsame : ¬ O → (S' ↔ S)) (hdiffers : O → S → ¬ S') :
    (S ∨ T ↔ S' ∨ T) ↔ ¬ (O ∧ (S ∨ S') ∧ ¬ T) := by
  tauto

/-- **The frequencies that only some of the walks look up.** -/
theorem allOrNone_iff (hk : Khz hd) {c : ChanDef} (hvalid : c.valid hd = true) (hfits : CentersFit c) (freq : BitVec 32) :
    AllOrNone hd c freq ↔ ¬ OnlySome c freq := by
  obtain ⟨htwo, hoff⟩ := valid_centers hvalid
  obtain ⟨hfits1, hfits2⟩ := hfits
  have hwidth := width_cases c.width
  have hwidth' : c.width.mhz ≤ 20 ∨ ∃ m, c.width.mhz = 20 * m ∧ m ≤ 16 := by
    rcases hwidth with ⟨hlt, _⟩ | ⟨m, heq, _, hm⟩
    · exact .inl (Nat.le_of_lt hlt)
    · exact .inr ⟨m, heq, hm⟩
  have hkhz : ∀ {center : BitVec 32}, CenterFits center → (mhzToKhz center).toNat = 1000 * center.toNat := by
    rintro center ⟨_, hhigh⟩
    unfold mhzToKhz
    rw [BitVec.toNat_mul]
    clear hwidth hwidth'
    simp
    omega
  have hreader : ∀ {center : BitVec 32}, CenterFits center → (freq ∈ readerSeg (mhzToKhz center) (getWidth c) ↔
      SubChannel (1000 * center.toNat) c.width.mhz freq.toNat) := by
    intro center hfits
    have heq := hkhz hfits
    obtain ⟨hlow, hhigh⟩ := hfits
    rw [← heq]
    exact mem_readerSeg hwidth' (by rw [heq]; omega) (by rw [heq]; omega) freq
  have hrequired : freq ∈ readerSeg (hd.chandefToKhz c) (getWidth c) ↔
      SubChannel (1000 * c.centerFreq1.toNat + c.freq1Offset.toNat) c.width.mhz freq.toNat := by
    have heq : (hd.chandefToKhz c).toNat = 1000 * c.centerFreq1.toNat + c.freq1Offset.toNat := by
      have hsum := hkhz hfits1
      obtain ⟨_, hhigh⟩ := hfits1
      rw [hk.chandef, BitVec.toNat_add, hsum]
      clear hwidth hwidth'
      simp
      omega
    rw [← heq]
    obtain ⟨hlow, hhigh⟩ := hfits1
    exact mem_readerSeg hwidth' (by rw [heq]; omega) (by rw [heq]; omega) freq
  have hwriter : ∀ {center : BitVec 32}, CenterFits center → (freq ∈ (writerSeg center (getWidth c)).map mhzToKhz ↔
      20 ≤ c.width.mhz ∧ SubChannel (1000 * center.toNat) c.width.mhz freq.toNat) := fun hfits =>
    mem_writerSeg hwidth hfits freq
  have hsecond : c.centerFreq2 ≠ 0 → 20 ≤ c.width.mhz := fun hne => by
    rw [htwo.mp hne]
    decide
  have hsame : ¬ c.freq1Offset ≠ 0 → (SubChannel (1000 * c.centerFreq1.toNat + c.freq1Offset.toNat) c.width.mhz freq.toNat ↔
      SubChannel (1000 * c.centerFreq1.toNat) c.width.mhz freq.toNat) := by
    intro hnot
    have hzero : c.freq1Offset.toNat = 0 := congrArg BitVec.toNat (not_not.mp hnot)
    rw [hzero, Nat.add_zero]
  have hdiffers : c.freq1Offset ≠ 0 → SubChannel (1000 * c.centerFreq1.toNat) c.width.mhz freq.toNat →
      ¬ SubChannel (1000 * c.centerFreq1.toNat + c.freq1Offset.toNat) c.width.mhz freq.toNat := fun hne =>
    subChannel_offset (Nat.pos_of_ne_zero fun h => hne (BitVec.eq_of_toNat_eq h)) hoff
  have hnarrow : c.width.mhz < 20 ↔ ¬ 20 ≤ c.width.mhz := Nat.not_le.symm
  unfold AllOrNone OnlySome writerFreqs requiredFreqs usableFreqs availableFreqs cacTimeFreqs
  by_cases hzero : c.centerFreq2 = 0
  · have hnot : c.width ≠ .w80p80 := fun h => htwo.mpr h hzero
    simp only [if_pos hzero, if_neg hnot, List.append_nil]
    rw [hwriter hfits1, hrequired, hreader hfits1, one_segment hsame hdiffers, hnarrow]
    refine not_congr (and_congr_right fun _ => ?_)
    exact (and_iff_left fun h => h.1 hzero).symm
  · have hwide := hsecond hzero
    simp only [if_neg hzero, if_pos (htwo.mp hzero), List.map_append, List.mem_append]
    rw [hwriter hfits1, hwriter (hfits2 hzero), hrequired, hreader hfits1, hreader (hfits2 hzero), and_iff_right hwide,
      and_iff_right hwide, and_iff_left ⟨Iff.rfl, Iff.rfl, Iff.rfl⟩, two_segments hsame hdiffers]
    refine not_congr (and_congr ?_ (and_congr_right fun _ => not_congr (and_iff_right hzero).symm))
    exact (or_iff_right (Nat.not_lt.mpr hwide)).symm

/-! ## The channels of a walk -/

variable {t : Table}

theorem getChannelKhz_some {freq : BitVec 32} {i : Nat} (hfound : getChannelKhz hd t freq = some i) :
    i < t.length ∧ hd.channelToKhz (t.at i).chan = freq := by
  obtain ⟨hlt, hfreq, _⟩ := List.findIdx?_eq_some_iff_getElem.mp hfound
  refine ⟨hlt, ?_⟩
  unfold Table.at
  rw [List.getD_eq_getElem?_getD, List.getElem?_eq_getElem hlt]
  exact of_decide_eq_true hfreq

theorem getChannelKhz_unique {freq freq' : BitVec 32} {i : Nat} (hfound : getChannelKhz hd t freq = some i)
    (hfound' : getChannelKhz hd t freq' = some i) : freq = freq' :=
  (getChannelKhz_some hfound).2.symm.trans (getChannelKhz_some hfound').2

/-- Two walks come to the same channels, exactly when they look up the same frequencies where channels with radar detection are. -/
theorem inspected_eq_iff {freqs freqs' : List (BitVec 32)} : inspected hd t freqs = inspected hd t freqs' ↔
    ∀ i freq, getChannelKhz hd t freq = some i → (t.at i).radar = true → (freq ∈ freqs ↔ freq ∈ freqs') := by
  have hmem : ∀ {i freq} (fs : List (BitVec 32)), getChannelKhz hd t freq = some i → (t.at i).radar = true →
      (i ∈ inspected hd t fs ↔ freq ∈ fs) := by
    intro i freq fs hfound hradar
    constructor
    · rintro ⟨_, freq', hin, hfound'⟩
      rwa [getChannelKhz_unique hfound hfound']
    · exact fun hin => ⟨hradar, freq, hin, hfound⟩
  constructor
  · intro heq i freq hfound hradar
    rw [← hmem freqs hfound hradar, ← hmem freqs' hfound hradar, heq]
  · intro hsame
    ext i
    constructor
    · rintro ⟨hradar, freq, hin, hfound⟩
      exact ⟨hradar, freq, (hsame i freq hfound hradar).mp hin, hfound⟩
    · rintro ⟨hradar, freq, hin, hfound⟩
      exact ⟨hradar, freq, (hsame i freq hfound hradar).mpr hin, hfound⟩

/-! ## What the writer writes -/

def DfsChannel.write (now : Nat) (dfsState : DfsState) (c : DfsChannel) : DfsChannel :=
  { c with dfsState := dfsState, dfsStateEntered := now }

theorem getChannelKhz_of_chans {t' : Table} (hchans : t'.map DfsChannel.chan = t.map DfsChannel.chan) (freq : BitVec 32) :
    getChannelKhz hd t' freq = getChannelKhz hd t freq := by
  have hmap : ∀ u : Table, getChannelKhz hd u freq = (u.map DfsChannel.chan).findIdx? fun c => hd.channelToKhz c = freq := by
    intro u
    rw [List.findIdx?_map]
    rfl
  rw [hmap, hmap, hchans]

theorem at_modify {i : Nat} (hi : i < t.length) (f : DfsChannel → DfsChannel) (j : Nat) :
    Table.at (t.modify i f) j = if j = i then f (t.at i) else t.at j := by
  unfold Table.at
  rw [List.getD_eq_getElem?_getD, List.getD_eq_getElem?_getD, List.getD_eq_getElem?_getD, List.getElem?_modify]
  by_cases heq : j = i
  · rw [if_pos heq, heq, List.getElem?_eq_getElem hi]
    simp
  · simp [heq, Ne.symm heq]

theorem chans_modify (now i : Nat) (dfsState : DfsState) :
    (t.modify i (DfsChannel.write now dfsState)).map DfsChannel.chan = t.map DfsChannel.chan := by
  apply List.ext_getElem?
  intro j
  rw [List.getElem?_map, List.getElem?_map, List.getElem?_modify]
  cases t[j]? with
  | none => rfl
  | some c =>
    by_cases heq : i = j
    · simp [heq, DfsChannel.write]
    · simp [heq]

/-- **One round of the writer.** -/
theorem setChanDfsState_spec (hd : Header) (t : Table) (now : Nat) (dfsState : DfsState) (freq : BitVec 32) :
    (setChanDfsState hd now dfsState t freq).map DfsChannel.chan = t.map DfsChannel.chan ∧
      ∀ j, (j ∈ inspected hd t [mhzToKhz freq] → (setChanDfsState hd now dfsState t freq).at j = (t.at j).write now dfsState) ∧
        (j ∉ inspected hd t [mhzToKhz freq] → (setChanDfsState hd now dfsState t freq).at j = t.at j) := by
  have hmem : ∀ j, j ∈ inspected hd t [mhzToKhz freq] ↔
      (t.at j).radar = true ∧ getChannelKhz hd t (mhzToKhz freq) = some j := by
    intro j
    simp [inspected]
  unfold setChanDfsState
  cases hfound : getChannelKhz hd t (mhzToKhz freq) with
  | none =>
    refine ⟨rfl, fun j => ⟨fun hin => ?_, fun _ => rfl⟩⟩
    have hsome := ((hmem j).mp hin).2
    rw [hfound] at hsome
    cases hsome
  | some i =>
    have hlt := (getChannelKhz_some hfound).1
    dsimp only
    by_cases hradar : (t.at i).radar = true
    · rw [if_pos hradar]
      have hat := at_modify hlt (DfsChannel.write now dfsState)
      refine ⟨chans_modify now i dfsState, fun j => ⟨fun hin => ?_, fun hout => ?_⟩⟩
      · have hsome := ((hmem j).mp hin).2
        rw [hfound] at hsome
        cases hsome
        exact (hat i).trans (if_pos rfl)
      · refine (hat j).trans (if_neg fun heq => hout ((hmem j).mpr ?_))
        rw [heq]
        exact ⟨hradar, hfound⟩
    · rw [if_neg hradar]
      refine ⟨rfl, fun j => ⟨fun hin => ?_, fun _ => rfl⟩⟩
      obtain ⟨hradar', hsome⟩ := (hmem j).mp hin
      rw [hfound] at hsome
      cases hsome
      exact absurd hradar' hradar

/-- **The loop of the writer**: the channels that it comes to are written, and no other. -/
theorem setChans_spec (now : Nat) (dfsState : DfsState) (freqs : List (BitVec 32)) (t : Table) :
    (freqs.foldl (setChanDfsState hd now dfsState) t).map DfsChannel.chan = t.map DfsChannel.chan ∧
      ∀ j, (j ∈ inspected hd t (freqs.map mhzToKhz) →
          Table.at (freqs.foldl (setChanDfsState hd now dfsState) t) j = (t.at j).write now dfsState) ∧
        (j ∉ inspected hd t (freqs.map mhzToKhz) →
          Table.at (freqs.foldl (setChanDfsState hd now dfsState) t) j = t.at j) := by
  induction freqs generalizing t with
  | nil =>
    refine ⟨rfl, fun j => ⟨fun hin => ?_, fun _ => rfl⟩⟩
    obtain ⟨_, _, hnil, _⟩ := hin
    cases hnil
  | cons freq freqs ih =>
    obtain ⟨hchans, hone⟩ := setChanDfsState_spec hd t now dfsState freq
    obtain ⟨hchans', hrest⟩ := ih (setChanDfsState hd now dfsState t freq)
    rw [List.foldl_cons]
    refine ⟨hchans'.trans hchans, fun j => ?_⟩
    have hradar : ((setChanDfsState hd now dfsState t freq).at j).radar = (t.at j).radar := by
      by_cases hin : j ∈ inspected hd t [mhzToKhz freq]
      · rw [(hone j).1 hin]
        rfl
      · rw [(hone j).2 hin]
    have hlater : j ∈ inspected hd (setChanDfsState hd now dfsState t freq) (freqs.map mhzToKhz) ↔
        j ∈ inspected hd t (freqs.map mhzToKhz) := by
      unfold inspected
      simp only [Set.mem_ofPred_eq, hradar, getChannelKhz_of_chans hchans]
    have hsplit : j ∈ inspected hd t ((freq :: freqs).map mhzToKhz) ↔
        j ∈ inspected hd t [mhzToKhz freq] ∨ j ∈ inspected hd t (freqs.map mhzToKhz) := by
      unfold inspected
      simp only [Set.mem_ofPred_eq, List.map_cons, List.mem_cons, List.not_mem_nil, or_false, exists_eq_or_imp,
        exists_eq_left]
      exact and_or_left
    have htwice : ((t.at j).write now dfsState).write now dfsState = (t.at j).write now dfsState := rfl
    constructor
    · intro hin
      by_cases hlast : j ∈ inspected hd t (freqs.map mhzToKhz)
      · rw [(hrest j).1 (hlater.mpr hlast)]
        by_cases hin' : j ∈ inspected hd t [mhzToKhz freq]
        · rw [(hone j).1 hin', htwice]
        · rw [(hone j).2 hin']
      · rw [(hrest j).2 fun h => hlast (hlater.mp h)]
        exact (hone j).1 ((hsplit.mp hin).resolve_right hlast)
    · intro hout
      rw [(hrest j).2 fun h => hout (hsplit.mpr (.inr (hlater.mp h)))]
      exact (hone j).2 fun h => hout (hsplit.mpr (.inl h))

/-- **`cfg80211_set_dfs_state`** writes the channels that its walk comes to. -/
theorem setDfsState_at {c : ChanDef} (hvalid : c.valid hd = true) (now : Nat) (dfsState : DfsState) (t : Table) :
    (setDfsState hd now t c dfsState).map DfsChannel.chan = t.map DfsChannel.chan ∧
      ∀ j, (j ∈ inspected hd t (writerFreqs c) → (setDfsState hd now t c dfsState).at j = (t.at j).write now dfsState) ∧
        (j ∉ inspected hd t (writerFreqs c) → (setDfsState hd now t c dfsState).at j = t.at j) := by
  have hwalk : setDfsState hd now t c dfsState = (writerSeg c.centerFreq1 (getWidth c) ++
      if c.centerFreq2 = 0 then [] else writerSeg c.centerFreq2 (getWidth c)).foldl (setChanDfsState hd now dfsState) t := by
    unfold setDfsState setChansDfsState
    rw [if_pos hvalid, List.foldl_append]
    by_cases hzero : c.centerFreq2 = 0
    · rw [if_pos hzero, if_pos hzero]
      rfl
    · rw [if_neg hzero, if_neg hzero]
  rw [hwalk]
  exact setChans_spec now dfsState _ t

/-! ## What the readers see -/

theorem getChansDfsAvailable_iff (dfsOffload : Bool) (freqs : List (BitVec 32)) :
    getChansDfsAvailable hd t dfsOffload freqs = true ↔
      ∀ freq ∈ freqs, ∃ i, getChannelKhz hd t freq = some i ∧ (t.at i).passes dfsOffload = true := by
  induction freqs with
  | nil => exact iff_of_true rfl nofun
  | cons freq freqs ih =>
    rw [List.forall_mem_cons, ← ih, getChansDfsAvailable]
    cases hfound : getChannelKhz hd t freq with
    | none => simp
    | some i =>
      have hone : (∃ i', some i = some i' ∧ (t.at i').passes dfsOffload = true) ↔ (t.at i).passes dfsOffload = true := by simp
      rw [hone]
      by_cases hpass : (t.at i).passes dfsOffload = true
      · simp [hpass]
      · simp [hpass]

/-- **When a chandef is available**: every channel of the walk is there, and passes. -/
theorem chandefDfsAvailable_iff {c : ChanDef} (hvalid : c.valid hd = true) (dfsOffload : Bool) :
    chandefDfsAvailable hd t dfsOffload c = true ↔
      ∀ freq ∈ availableFreqs c, ∃ i, getChannelKhz hd t freq = some i ∧ (t.at i).passes dfsOffload = true := by
  unfold availableFreqs
  rw [List.forall_mem_append, ← getChansDfsAvailable_iff, ← getChansDfsAvailable_iff]
  unfold chandefDfsAvailable
  by_cases hpp : c.width = .w80p80
  · simp [hvalid, hpp]
  · simp [hvalid, hpp, getChansDfsAvailable]

theorem getChansDfsRequired_append (permissive : Nat → Bool) (freqs freqs' : List (BitVec 32)) :
    getChansDfsRequired hd t permissive (freqs ++ freqs') =
      if getChansDfsRequired hd t permissive freqs = 0 then getChansDfsRequired hd t permissive freqs'
      else getChansDfsRequired hd t permissive freqs := by
  induction freqs with
  | nil => rfl
  | cons freq freqs ih =>
    rw [List.cons_append, getChansDfsRequired, getChansDfsRequired]
    cases getChannelKhz hd t freq with
    | none => rfl
    | some i =>
      cases hradar : ((t.at i).radar && !permissive i) with
      | true =>
        simp only [hradar, if_true]
        rfl
      | false =>
        simp only [hradar, Bool.false_eq_true, if_false]
        exact ih

/-- **`cfg80211_chandef_dfs_required` is one walk** over its frequencies. -/
theorem chandefDfsRequired_walk {c : ChanDef} (hvalid : c.valid hd = true) {iftype : Iftype} (hbeacons : iftype.beacons = true)
    (permissive : Iftype → Nat → Bool) : chandefDfsRequired hd t c iftype permissive =
      let ret := getChansDfsRequired hd t (permissive iftype) (requiredFreqs hd c)
      if ret < 0 then ret else if ret > 0 then widthBit c else 0 := by
  unfold chandefDfsRequired requiredFreqs
  dsimp only
  rw [if_neg (by simp [hvalid]), if_pos hbeacons, getChansDfsRequired_append]
  generalize getChansDfsRequired hd t (permissive iftype) (readerSeg (hd.chandefToKhz c) (getWidth c)) = ret
  by_cases hzero : ret = 0
  · rw [hzero, if_neg (by decide), if_neg (by decide), if_pos rfl]
    by_cases hone : c.centerFreq2 = 0
    · rw [if_pos hone, if_pos hone]
      rfl
    · rw [if_neg hone, if_neg hone]
  · rw [if_neg hzero]
    by_cases hneg : ret < 0
    · rw [if_pos hneg, if_pos hneg]
    · have hpos : ret > 0 := by omega
      rw [if_neg hneg, if_pos hpos, if_neg hneg, if_pos hpos]

theorem getChansDfsUsable_append (freqs freqs' : List (BitVec 32)) (count : Nat) :
    getChansDfsUsable hd t (freqs ++ freqs') count =
      (getChansDfsUsable hd t freqs count).bind fun r1 => (getChansDfsUsable hd t freqs' 0).map fun r2 => r1 + r2 := by
  have hcount : ∀ (fs : List (BitVec 32)) (n : Nat),
      getChansDfsUsable hd t fs n = (getChansDfsUsable hd t fs 0).map fun r => n + r := by
    intro fs
    induction fs with
    | nil => exact fun _ => rfl
    | cons freq fs ih =>
      intro n
      rw [getChansDfsUsable, getChansDfsUsable]
      cases getChannelKhz hd t freq with
      | none => rfl
      | some i =>
        dsimp only
        split_ifs
        · rfl
        · cases (t.at i).dfsState with
          | usable =>
            dsimp only
            rw [ih (n + 1), ih (0 + 1), Option.map_map]
            congr 1
            ext r
            simp [Nat.add_assoc]
          | unavailable => rfl
          | available => exact ih n
        · exact ih n
  induction freqs generalizing count with
  | nil => exact hcount freqs' count
  | cons freq freqs ih =>
    rw [List.cons_append, getChansDfsUsable, getChansDfsUsable]
    cases getChannelKhz hd t freq with
    | none => rfl
    | some i =>
      dsimp only
      split_ifs
      · rfl
      · cases (t.at i).dfsState with
        | usable => exact ih (count + 1)
        | unavailable => rfl
        | available => exact ih count
      · exact ih count

/-- **`cfg80211_chandef_dfs_usable` is one walk** over its frequencies. -/
theorem chandefDfsUsable_walk {c : ChanDef} (hvalid : c.valid hd = true) :
    chandefDfsUsable hd t c = (getChansDfsUsable hd t (usableFreqs c) 0).any fun count => count > 0 := by
  unfold chandefDfsUsable usableFreqs
  rw [if_neg (by simp [hvalid]), getChansDfsUsable_append]
  cases getChansDfsUsable hd t (readerSeg (mhzToKhz c.centerFreq1) (getWidth c)) 0 with
  | none => rfl
  | some r1 =>
    by_cases hpp : c.width = .w80p80
    · rw [if_pos hpp]
      dsimp only
      rw [if_pos hpp]
      cases getChansDfsUsable hd t (readerSeg (mhzToKhz c.centerFreq2) (getWidth c)) 0 with
      | none => rfl
      | some r2 => rfl
    · rw [if_neg hpp]
      dsimp only
      rw [if_neg hpp]
      rfl

/-- The longest CAC time of the channels with radar detection. -/
def longestCac (t : Table) (channels : List Nat) : Nat :=
  channels.foldl (fun ms i => if (t.at i).radar then max ms (t.at i).dfsCacMs else ms) 0

theorem getChansDfsCacTime_eq (freqs : List (BitVec 32)) (ms : Nat)
    (hall : ∀ freq ∈ freqs, ∃ i, getChannelKhz hd t freq = some i ∧ (t.at i).disabled = false) :
    getChansDfsCacTime hd t freqs ms =
      (freqs.filterMap (getChannelKhz hd t)).foldl (fun ms i => if (t.at i).radar then max ms (t.at i).dfsCacMs else ms) ms := by
  induction freqs generalizing ms with
  | nil => rfl
  | cons freq freqs ih =>
    obtain ⟨i, hfound, hdisabled⟩ := hall freq List.mem_cons_self
    have hrest := fun m => ih m fun f hf => hall f (List.mem_cons_of_mem freq hf)
    rw [getChansDfsCacTime, hfound, List.filterMap_cons, hfound]
    dsimp only
    rw [List.foldl_cons, if_neg (by simp [hdisabled])]
    by_cases hradar : (t.at i).radar = true
    · have hlarger : (if (t.at i).dfsCacMs > ms then (t.at i).dfsCacMs else ms) = max ms (t.at i).dfsCacMs := by
        by_cases hgt : (t.at i).dfsCacMs > ms
        · rw [if_pos hgt, Nat.max_eq_right (Nat.le_of_lt hgt)]
        · rw [if_neg hgt, Nat.max_eq_left (Nat.not_lt.mp hgt)]
      rw [if_neg (by simp [hradar]), if_pos hradar, hrest, hlarger]
    · rw [if_pos (by simpa using hradar), if_neg hradar, hrest]

/-- **`cfg80211_chandef_dfs_cac_time`**, when all channels of the walk are there and enabled. -/
theorem chandefDfsCacTime_walk {c : ChanDef} (hvalid : c.valid hd = true)
    (hall : ∀ freq ∈ cacTimeFreqs c, ∃ i, getChannelKhz hd t freq = some i ∧ (t.at i).disabled = false) :
    chandefDfsCacTime hd t c = longestCac t ((cacTimeFreqs c).filterMap (getChannelKhz hd t)) := by
  have hmax : ∀ (channels : List Nat) (m n : Nat),
      channels.foldl (fun ms i => if (t.at i).radar then max ms (t.at i).dfsCacMs else ms) (max m n) =
        max m (channels.foldl (fun ms i => if (t.at i).radar then max ms (t.at i).dfsCacMs else ms) n) := by
    intro channels
    induction channels with
    | nil => exact fun _ _ => rfl
    | cons i channels ih =>
      intro m n
      rw [List.foldl_cons, List.foldl_cons]
      by_cases hradar : (t.at i).radar = true
      · rw [if_pos hradar, if_pos hradar, Nat.max_assoc, ih]
      · rw [if_neg hradar, if_neg hradar, ih]
  unfold cacTimeFreqs at hall ⊢
  rw [List.forall_mem_append] at hall
  obtain ⟨hfirst, hsecond⟩ := hall
  unfold chandefDfsCacTime longestCac
  rw [if_neg (by simp [hvalid]), List.filterMap_append, List.foldl_append, ← getChansDfsCacTime_eq _ _ hfirst]
  dsimp only
  by_cases hzero : c.centerFreq2 = 0
  · rw [if_pos hzero, if_pos hzero]
    rfl
  · rw [if_neg hzero] at hsecond
    rw [if_neg hzero, if_neg hzero, getChansDfsCacTime_eq _ 0 hsecond, ← hmax, Nat.max_zero]

/-! ## When the walks agree -/

theorem available_after {c : ChanDef} (hvalid : c.valid hd = true)
    (hsame : inspected hd t (writerFreqs c) = inspected hd t (availableFreqs c)) (now : Nat) (dfsOffload : Bool)
    (henabled : ∀ freq ∈ availableFreqs c, ∃ i, getChannelKhz hd t freq = some i ∧ (t.at i).disabled = false) :
    chandefDfsAvailable hd (setDfsState hd now t c .available) dfsOffload c = true := by
  obtain ⟨hchans, hat⟩ := setDfsState_at hvalid now .available t
  rw [chandefDfsAvailable_iff hvalid]
  intro freq hin
  obtain ⟨i, hfound, hdisabled⟩ := henabled freq hin
  refine ⟨i, (getChannelKhz_of_chans hchans freq).trans hfound, ?_⟩
  by_cases hradar : (t.at i).radar = true
  · have hwritten : i ∈ inspected hd t (writerFreqs c) := hsame ▸ ⟨hradar, freq, hin, hfound⟩
    rw [(hat i).1 hwritten]
    simp [DfsChannel.passes, DfsChannel.write, hdisabled]
  · have hother : i ∉ inspected hd t (writerFreqs c) := fun h => hradar h.1
    rw [(hat i).2 hother]
    simp [DfsChannel.passes, hdisabled, hradar]

theorem unavailable_after {c : ChanDef} (hvalid : c.valid hd = true)
    (hsame : inspected hd t (writerFreqs c) = inspected hd t (availableFreqs c)) (now : Nat) (dfsOffload : Bool)
    (hradar : (inspected hd t (availableFreqs c)).Nonempty) :
    chandefDfsAvailable hd (setDfsState hd now t c .unavailable) dfsOffload c = false := by
  obtain ⟨hchans, hat⟩ := setDfsState_at hvalid now .unavailable t
  obtain ⟨i, hi⟩ := hradar
  obtain ⟨hflag, freq, hin, hfound⟩ := id hi
  rw [← Bool.not_eq_true, chandefDfsAvailable_iff hvalid]
  intro hall
  obtain ⟨i', hfound', hpass⟩ := hall freq hin
  rw [getChannelKhz_of_chans hchans, hfound] at hfound'
  cases hfound'
  rw [(hat i).1 (hsame ▸ hi)] at hpass
  simp [DfsChannel.passes, DfsChannel.write, hflag] at hpass

/-- **All walks agree on the sub-channels of a chandef, exactly when no channel with radar detection is at a frequency that only some of
    them look up**; and these frequencies, for centers that fit. -/
theorem walks_agree_iff (hk : Khz hd) {c : ChanDef} (hvalid : c.valid hd = true) (t : Table) :
    (WalksAgree hd t c ↔ NoneMissed hd t c) ∧ (CentersFit c → ∀ freq, AllOrNone hd c freq ↔ ¬ OnlySome c freq) := by
  refine ⟨⟨fun hagree i freq hfound hradar => ?_, fun hnone => ?_⟩, allOrNone_iff hk hvalid⟩
  · exact ⟨inspected_eq_iff.mp hagree.required i freq hfound hradar, inspected_eq_iff.mp hagree.usable i freq hfound hradar,
      inspected_eq_iff.mp hagree.available i freq hfound hradar, inspected_eq_iff.mp hagree.cacTime i freq hfound hradar⟩
  · have hsame : inspected hd t (writerFreqs c) = inspected hd t (availableFreqs c) :=
      inspected_eq_iff.mpr fun i freq hfound hradar => (hnone i freq hfound hradar).2.2.1
    exact {
      required := inspected_eq_iff.mpr fun i freq hfound hradar => (hnone i freq hfound hradar).1
      usable := inspected_eq_iff.mpr fun i freq hfound hradar => (hnone i freq hfound hradar).2.1
      available := hsame
      cacTime := inspected_eq_iff.mpr fun i freq hfound hradar => (hnone i freq hfound hradar).2.2.2
      afterAvailable := available_after hvalid hsame
      afterUnavailable := unavailable_after hvalid hsame }

/-! ## The availability check -/

/-- Every channel of the walk is there, and enabled. -/
def Enabled (hd : Header) (t : Table) (freqs : List (BitVec 32)) : Prop :=
  ∀ freq ∈ freqs, ∃ i, getChannelKhz hd t freq = some i ∧ (t.at i).disabled = false

theorem getChansDfsUsable_iff (freqs : List (BitVec 32)) (n : Nat) :
    ((getChansDfsUsable hd t freqs n).any fun count => count > 0) = true ↔
      Enabled hd t freqs ∧ (∀ i ∈ inspected hd t freqs, (t.at i).dfsState ≠ .unavailable) ∧
        (0 < n ∨ ∃ i ∈ inspected hd t freqs, (t.at i).dfsState = .usable) := by
  induction freqs generalizing n with
  | nil => simp [getChansDfsUsable, Enabled, inspected]
  | cons freq freqs ih =>
    unfold Enabled at ih ⊢
    rw [getChansDfsUsable, List.forall_mem_cons]
    cases hfound : getChannelKhz hd t freq with
    | none => simp
    | some i =>
      have hmem : ∀ j, j ∈ inspected hd t (freq :: freqs) ↔
          (t.at i).radar = true ∧ i = j ∨ j ∈ inspected hd t freqs := by
        intro j
        have hflag : (t.at j).radar = true ∧ i = j ↔ (t.at i).radar = true ∧ i = j := by
          constructor <;> exact fun h => ⟨by simpa [h.2] using h.1, h.2⟩
        rw [← hflag]
        simp [inspected, hfound, and_or_left]
      simp only [hmem, or_imp, or_and_right, forall_and, exists_or]
      cases hdisabled : (t.at i).disabled with
      | true => simp [hdisabled]
      | false =>
        cases (t.at i).radar with
        | false => simp [hdisabled, ih]
        | true => cases hstate : (t.at i).dfsState <;> simp [hdisabled, hstate, ih]

theorem chandefDfsUsable_iff {c : ChanDef} : chandefDfsUsable hd t c = true ↔ c.valid hd = true ∧
    Enabled hd t (usableFreqs c) ∧ (∀ i ∈ inspected hd t (usableFreqs c), (t.at i).dfsState ≠ .unavailable) ∧
      ∃ i ∈ inspected hd t (usableFreqs c), (t.at i).dfsState = .usable := by
  cases hvalid : c.valid hd with
  | false => simp [chandefDfsUsable, hvalid]
  | true =>
    rw [chandefDfsUsable_walk hvalid, getChansDfsUsable_iff]
    simp

theorem chandefDfsAvailable_iff_states {c : ChanDef} (hvalid : c.valid hd = true) :
    chandefDfsAvailable hd t false c = true ↔
      Enabled hd t (usableFreqs c) ∧ ∀ i ∈ inspected hd t (usableFreqs c), (t.at i).dfsState = .available := by
  have hpasses : ∀ i, (t.at i).passes false = true ↔
      (t.at i).disabled = false ∧ ((t.at i).radar = true → (t.at i).dfsState = .available) := by
    intro i
    cases hradar : (t.at i).radar <;> simp [DfsChannel.passes, hradar]
  rw [chandefDfsAvailable_iff hvalid]
  constructor
  · intro hall
    refine ⟨?_, ?_⟩
    · intro freq hin
      obtain ⟨i, hfound, hpass⟩ := hall freq hin
      exact ⟨i, hfound, ((hpasses i).mp hpass).1⟩
    · rintro i ⟨hflag, freq, hin, hfound⟩
      obtain ⟨i', hfound', hpass⟩ := hall freq hin
      rw [hfound] at hfound'
      cases hfound'
      exact ((hpasses i).mp hpass).2 hflag
  · rintro ⟨henabled, hstates⟩ freq hin
    obtain ⟨i, hfound, hdisabled⟩ := henabled freq hin
    exact ⟨i, hfound, (hpasses i).mpr ⟨hdisabled, fun hflag => hstates i ⟨hflag, freq, hin, hfound⟩⟩⟩

/-- What the writer changes is the state of the channels that it comes to. -/
theorem after_write {c : ChanDef} (hvalid : c.valid hd = true) (now : Nat) (dfsState : DfsState) :
    (∀ freqs, inspected hd (setDfsState hd now t c dfsState) freqs = inspected hd t freqs ∧
      (Enabled hd (setDfsState hd now t c dfsState) freqs ↔ Enabled hd t freqs)) ∧
      ∀ i ∈ inspected hd t (writerFreqs c), ((setDfsState hd now t c dfsState).at i).dfsState = dfsState := by
  obtain ⟨hchans, hat⟩ := setDfsState_at hvalid now dfsState t
  generalize setDfsState hd now t c dfsState = t' at hchans hat
  have hkept : ∀ i, (t'.at i).radar = (t.at i).radar ∧ (t'.at i).disabled = (t.at i).disabled := by
    intro i
    by_cases hi : i ∈ inspected hd t (writerFreqs c)
    · rw [(hat i).1 hi]
      exact ⟨rfl, rfl⟩
    · rw [(hat i).2 hi]
      exact ⟨rfl, rfl⟩
  refine ⟨fun freqs => ?_, fun i hi => by rw [(hat i).1 hi]; rfl⟩
  simp [inspected, Enabled, getChannelKhz_of_chans hchans, hkept]

theorem plain_khz : Khz Header.plain where
  chandef _ := by
    unfold mhzToKhz
    rfl

/-- A channel at 5 GHz with radar detection, enabled, after its availability check. -/
def radarChannel (centerFreq : BitVec 32) : DfsChannel where
  chan := { addr := centerFreq.toNat, s1g := false, centerFreq := centerFreq, freqOffset := 0 }
  radar := true
  disabled := false
  dfsState := .available
  dfsStateEntered := 0
  dfsCacMs := 60000

def chandef52 (width : Width) (centerFreq1 : BitVec 32) : ChanDef where
  chan := some (radarChannel 5260).chan
  width := width
  centerFreq1 := centerFreq1
  centerFreq2 := 0
  edmg := { channels := 0, bwConfig := 0 }
  freq1Offset := 0
  punctured := 0

/-- At 80 MHz all walks come to the same channels. -/
theorem walks_agree_80 : WalksAgree Header.plain [radarChannel 5260, radarChannel 5280, radarChannel 5300, radarChannel 5320]
    (chandef52 .w80 5290) := by
  have hvalid : (chandef52 .w80 5290).valid Header.plain = true := by decide
  obtain ⟨hiff, hfits⟩ := walks_agree_iff plain_khz hvalid
    [radarChannel 5260, radarChannel 5280, radarChannel 5300, radarChannel 5320]
  refine hiff.mpr fun i freq _ _ => (hfits ⟨⟨by decide, by decide⟩, fun h => absurd rfl h⟩ freq).mpr fun hsome => ?_
  rcases hsome.1 with hnarrow | hoffset
  · exact absurd hnarrow (by decide)
  · exact absurd rfl hoffset

/-- **At 5 MHz the writer comes to no channel**: after radar was detected the chandef is still available. -/
theorem narrow_still_available : (chandef52 .w5 5260).valid Header.plain = true ∧
    chandefDfsAvailable Header.plain [radarChannel 5260] false (chandef52 .w5 5260) = true ∧
    chandefDfsRequired Header.plain [radarChannel 5260] (chandef52 .w5 5260) .ap (fun _ _ => false) = 64 ∧
    chandefDfsAvailable Header.plain (setDfsState Header.plain 1 [radarChannel 5260] (chandef52 .w5 5260) .unavailable) false
      (chandef52 .w5 5260) = true ∧
    ¬ WalksAgree Header.plain [radarChannel 5260] (chandef52 .w5 5260) := by
  have hstill : chandefDfsAvailable Header.plain
      (setDfsState Header.plain 1 [radarChannel 5260] (chandef52 .w5 5260) .unavailable) false (chandef52 .w5 5260) = true := by
    decide
  refine ⟨by decide, by decide, by decide, hstill, fun h => ?_⟩
  have hgone := h.afterUnavailable 1 false ⟨0, rfl, 5260000, by decide, by decide⟩
  rw [hstill] at hgone
  cases hgone

end Wireless.Dfs
