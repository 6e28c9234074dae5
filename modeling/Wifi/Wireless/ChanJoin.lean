import Wifi.Lib.ChainJoin
import Wifi.Wireless.Chan

/-!
# Compatible channel definitions join

* `Below` — a chandef is the primary part of a wider one; `Within` — or identical to it.
* `compatible_eq` — `cfg80211_chandef_compatible` is the wider of two chandefs that are within each other.
* `compatible_pair` — it is symmetric, and gives the wider one.
* `compatible_fold` — folds do not depend on the order exactly if no two chandefs of one width within the
  widest of the list differ.
-/

namespace Wireless.Chan

open ChainJoin

variable {hd : Header} {a b c : ChanDef}

/-- `a` is the primary part of the wider `b`: the same control channel and, above 20 MHz, the same center and
    the same punctured bits. -/
def Below (a b : ChanDef) : Prop :=
  a.chan = b.chan ∧ a.width.narrowOrS1g = false ∧ b.width.narrowOrS1g = false ∧
    a.width.toNat < b.width.toNat ∧
    (a.width.toNat ≤ Width.w20.toNat ∨
      a.width ≠ .w80p80 ∧ b.primary a.width = (a.centerFreq1, a.punctured))

/-- `a` is identical to `b`, or its primary part. -/
def Within (hd : Header) (a b : ChanDef) : Prop := hd.identical a b = true ∨ Below a b

theorem Width.toNat_injective {v w : Width} (h : v.toNat = w.toNat) : v = w := by
  cases v <;> cases w <;> first | rfl | cases h

/-! ## Primary parts -/

/-- At its own width a chandef is its own primary part. -/
theorem primary_self {w : Width} (hw : w.mhz = a.width.mhz) : a.primary w = (a.centerFreq1, a.punctured) := by
  have hloop : ∀ n s, ChanDef.halveTo a.control w.mhz n w.mhz s = s := by
    intro n s
    cases n with
    | zero => rfl
    | succ n =>
      unfold ChanDef.halveTo
      rw [if_neg (Nat.lt_irrefl _)]
  unfold ChanDef.primary
  rw [← hw, if_neg (Nat.lt_irrefl _), hloop]

theorem halveTo_fuel {control : BitVec 32} {p : Nat} : ∀ {n m width : Nat} {s : BitVec 32 × BitVec 16},
    width ≤ n → width ≤ m → ChanDef.halveTo control p n width s = ChanDef.halveTo control p m width s
  | 0, m, width, s, hn, _ => by
    cases m with
    | zero => rfl
    | succ m =>
      unfold ChanDef.halveTo
      rw [if_neg (by omega)]
  | n + 1, 0, width, s, _, hm => by
    unfold ChanDef.halveTo
    rw [if_neg (by omega)]
  | n + 1, m + 1, width, s, hn, hm => by
    unfold ChanDef.halveTo
    split_ifs with hp
    · exact halveTo_fuel (by omega) (by omega)
    · rfl

/-- **The halving to `p` goes through `q`**, if the width is `q` times a power of two. -/
theorem halveTo_through {control : BitVec 32} {p q : Nat} (hpq : p ≤ q) (hq : 0 < q) : ∀ (k : Nat) {n : Nat}
    {s : BitVec 32 × BitVec 16}, q * 2 ^ k ≤ n →
    ChanDef.halveTo control p n (q * 2 ^ k) s =
      ChanDef.halveTo control p q q (ChanDef.halveTo control q n (q * 2 ^ k) s)
  | 0, n, s, hn => by
    have hself : ChanDef.halveTo control q n (q * 2 ^ 0) s = s := by
      cases n with
      | zero => rfl
      | succ n =>
        unfold ChanDef.halveTo
        rw [if_neg (by omega)]
    rw [hself, Nat.pow_zero, Nat.mul_one]
    exact halveTo_fuel (by omega) (Nat.le_refl q)
  | k + 1, n, s, hn => by
    have hhalf : q * 2 ^ (k + 1) / 2 = q * 2 ^ k := by
      rw [Nat.pow_succ, ← Nat.mul_assoc, Nat.mul_div_cancel _ (by omega)]
    have hle : q ≤ q * 2 ^ k := Nat.le_mul_of_pos_right _ (Nat.two_pow_pos k)
    have hdouble : q * 2 ^ (k + 1) = q * 2 ^ k + q * 2 ^ k := by
      rw [Nat.pow_succ, ← Nat.mul_assoc]
      omega
    cases n with
    | zero => omega
    | succ n =>
      rw [ChanDef.halveTo, if_pos (by omega), hhalf, ChanDef.halveTo.eq_def control q (n + 1)]
      dsimp only
      rw [if_pos (by omega), hhalf]
      exact halveTo_through hpq hq k (by omega)

/-- The primary part at a narrower width is that of the primary part in between. -/
theorem primary_through {w : Width} {k : Nat} (hk : c.width.mhz = b.width.mhz * 2 ^ k)
    (hb : 0 < b.width.mhz) (hw : w.mhz ≤ b.width.mhz) (hchan : b.chan = c.chan)
    (hp : c.primary b.width = (b.centerFreq1, b.punctured)) : c.primary w = b.primary w := by
  have hcontrol : c.control = b.control := by
    unfold ChanDef.control
    rw [hchan]
  have hle : b.width.mhz ≤ c.width.mhz := by
    rw [hk]
    exact Nat.le_mul_of_pos_right _ (Nat.two_pow_pos k)
  unfold ChanDef.primary at hp ⊢
  rw [if_neg (by omega)] at hp ⊢
  rw [if_neg (by omega), ← hp, hcontrol, hk]
  exact halveTo_through hw hb k (Nat.le_refl _)

/-! ## The relation -/

theorem Below.widths (h : Below a b) : a.width.toNat ≤ 1 ∨
    (a.width = .w40 ∧ (b.width = .w80 ∨ b.width = .w80p80 ∨ b.width = .w160 ∨ b.width = .w320)) ∨
    (a.width = .w80 ∧ (b.width = .w80p80 ∨ b.width = .w160 ∨ b.width = .w320)) ∨
    (a.width = .w160 ∧ b.width = .w320) := by
  obtain ⟨-, ha, hb, hlt, hcase⟩ := h
  cases hwa : a.width <;> rw [hwa] at ha hlt hcase <;> try cases ha
  all_goals cases hwb : b.width <;> rw [hwb] at hb hlt <;> simp_all [Width.toNat, Width.narrowOrS1g]

/-- **Primary parts of one width**, at a narrower width. -/
theorem Below.primary_eq {w : Width} (h : Below b c) (hb : 1 < b.width.toNat) (hw : w.mhz ≤ b.width.mhz) :
    c.primary w = b.primary w := by
  obtain ⟨hchan, -, -, -, hcase⟩ := id h
  rcases hcase with hle | ⟨-, hp⟩
  · exact absurd hle (by simpa [Width.toNat] using hb)
  · have hk : ∃ k, c.width.mhz = b.width.mhz * 2 ^ k ∧ 0 < b.width.mhz := by
      rcases h.widths with hle | ⟨hwb, hwc | hwc | hwc | hwc⟩ | ⟨hwb, hwc | hwc | hwc⟩ | ⟨hwb, hwc⟩
      · omega
      · exact ⟨1, by rw [hwb, hwc]; decide⟩
      · exact ⟨1, by rw [hwb, hwc]; decide⟩
      · exact ⟨2, by rw [hwb, hwc]; decide⟩
      · exact ⟨3, by rw [hwb, hwc]; decide⟩
      · exact ⟨0, by rw [hwb, hwc]; decide⟩
      · exact ⟨1, by rw [hwb, hwc]; decide⟩
      · exact ⟨2, by rw [hwb, hwc]; decide⟩
      · exact ⟨1, by rw [hwb, hwc]; decide⟩
    obtain ⟨k, hk, hpos⟩ := hk
    exact primary_through hk hpos hw hchan hp

theorem mhz_mono (ha : a.width.narrowOrS1g = false) (hb : b.width.narrowOrS1g = false)
    (h : a.width.toNat ≤ b.width.toNat) : a.width.mhz ≤ b.width.mhz := by
  cases hwa : a.width <;> rw [hwa] at ha h <;> try cases ha
  all_goals cases hwb : b.width <;> rw [hwb] at hb h <;> simp_all [Width.toNat, Width.narrowOrS1g, Width.mhz]

theorem one_lt_of_wider {n m : Nat} (h : ¬ n ≤ Width.w20.toNat) (hlt : n < m) : 1 < m := by
  have h1 : ¬ n ≤ 1 := h
  omega

theorem Below.trans (h1 : Below a b) (h2 : Below b c) : Below a c := by
  obtain ⟨hchan1, ha, hb, hlt1, hcase1⟩ := id h1
  obtain ⟨hchan2, -, hc, hlt2, hcase2⟩ := id h2
  refine ⟨hchan1.trans hchan2, ha, hc, Nat.lt_trans hlt1 hlt2, ?_⟩
  rcases hcase1 with hle | ⟨hne, hp⟩
  · exact .inl hle
  · by_cases hle : a.width.toNat ≤ Width.w20.toNat
    · exact .inl hle
    · have hb1 : 1 < b.width.toNat := one_lt_of_wider hle hlt1
      refine .inr ⟨hne, ?_⟩
      rw [h2.primary_eq hb1 (mhz_mono ha hb (Nat.le_of_lt hlt1)), hp]

/-- Two primary parts of one chandef are below each other, or have one width. -/
theorem Below.of_common (ha : Below a c) (hb : Below b c) (hlt : a.width.toNat < b.width.toNat) : Below a b := by
  obtain ⟨hchana, hna, -, -, hcasea⟩ := id ha
  obtain ⟨hchanb, hnb, -, -, -⟩ := id hb
  refine ⟨hchana.trans hchanb.symm, hna, hnb, hlt, ?_⟩
  rcases hcasea with hle | ⟨hne, hp⟩
  · exact .inl hle
  · by_cases hle : a.width.toNat ≤ Width.w20.toNat
    · exact .inl hle
    · have hb1 : 1 < b.width.toNat := one_lt_of_wider hle hlt
      refine .inr ⟨hne, ?_⟩
      rw [← hb.primary_eq hb1 (mhz_mono hna hnb (Nat.le_of_lt hlt)), hp]

/-! ## Compatible chandefs -/

theorem checkChandefPrimaryCompat_eq (w : Width) : checkChandefPrimaryCompat a b w =
    if a.primary w = b.primary w then if a.width = w then .ok b else .next else .err := by
  unfold checkChandefPrimaryCompat
  dsimp only
  by_cases h1 : (a.primary w).1 = (b.primary w).1
  · by_cases h2 : (a.primary w).2 = (b.primary w).2
    · rw [if_neg (not_not_intro h1), if_neg (not_not_intro h2), if_pos (Prod.ext h1 h2)]
    · rw [if_neg (not_not_intro h1), if_pos h2, if_neg fun h => h2 (congrArg Prod.snd h)]
  · rw [if_pos h1, if_neg fun h => h1 (congrArg Prod.fst h)]

theorem check_self : checkChandefPrimaryCompat a b a.width =
    if b.primary a.width = (a.centerFreq1, a.punctured) then .ok b else .err := by
  rw [checkChandefPrimaryCompat_eq, primary_self rfl, if_pos rfl]
  by_cases h : b.primary a.width = (a.centerFreq1, a.punctured)
  · rw [if_pos h.symm, if_pos h]
  · rw [if_neg fun h' => h h'.symm, if_neg h]

theorem Below.check {w : Width} (h : Below a b) (ha : 1 < a.width.toNat) (hw : w.mhz ≤ a.width.mhz)
    (hne : a.width ≠ w) : checkChandefPrimaryCompat a b w = .next := by
  rw [checkChandefPrimaryCompat_eq, if_pos (h.primary_eq ha hw).symm, if_neg hne]

/-- **A primary part is compatible.** -/
theorem Below.compatibleNarrower (h : Below a b) : compatibleNarrower a b = .ok b := by
  obtain ⟨hchan, -, -, hlt, hcase⟩ := id h
  unfold Chan.compatibleNarrower
  rcases hcase with hle | ⟨-, hp⟩
  · rw [if_pos hle]
  · have hself := check_self (a := a) (b := b)
    rw [if_pos hp] at hself
    rcases h.widths with hle | ⟨hwa, -⟩ | ⟨hwa, -⟩ | ⟨hwa, -⟩
    · exact if_pos hle
    · rw [hwa] at hself
      rw [if_neg (by rw [hwa]; decide), hself]
    · have hwide : 1 < a.width.toNat := by rw [hwa]; decide
      rw [if_neg (by rw [hwa]; decide), h.check hwide (by rw [hwa]; decide) (by rw [hwa]; decide)]
      rw [hwa] at hself
      rw [hself]
    · have hwide : 1 < a.width.toNat := by rw [hwa]; decide
      rw [if_neg (by rw [hwa]; decide), h.check hwide (by rw [hwa]; decide) (by rw [hwa]; decide)]
      dsimp only
      rw [h.check hwide (by rw [hwa]; decide) (by rw [hwa]; decide)]
      rw [hwa] at hself
      dsimp only
      rw [if_neg (by rw [hwa]; decide), hself]

theorem ok_of_check {w : Width} {r : ChanDef} (h : checkChandefPrimaryCompat a b w = .ok r) :
    r = b ∧ a.width = w ∧ b.primary a.width = (a.centerFreq1, a.punctured) := by
  rw [checkChandefPrimaryCompat_eq] at h
  split_ifs at h with hp hw
  cases h
  exact ⟨rfl, hw, by rw [hw, ← hp, ← hw, primary_self rfl]⟩

/-- **What is compatible is a primary part.** -/
theorem below_of_compatibleNarrower {r : ChanDef} (hchan : a.chan = b.chan) (ha : a.width.narrowOrS1g = false)
    (hb : b.width.narrowOrS1g = false) (hlt : a.width.toNat < b.width.toNat)
    (h : compatibleNarrower a b = .ok r) : r = b ∧ Below a b := by
  have hcheck : ∀ {w}, w ≠ .w80p80 → checkChandefPrimaryCompat a b w = .ok r → r = b ∧ Below a b := by
    intro w hw hc
    obtain ⟨rfl, rfl, hp⟩ := ok_of_check hc
    exact ⟨rfl, hchan, ha, hb, hlt, .inr ⟨hw, hp⟩⟩
  unfold compatibleNarrower at h
  by_cases hle : a.width.toNat ≤ Width.w20.toNat
  · rw [if_pos hle] at h
    cases h
    exact ⟨rfl, hchan, ha, hb, hlt, .inl hle⟩
  · rw [if_neg hle] at h
    cases h40 : checkChandefPrimaryCompat a b .w40 with
    | err => rw [h40] at h; cases h
    | ok c =>
      rw [h40] at h
      exact hcheck (by decide) (h40.trans h)
    | next =>
      rw [h40] at h
      dsimp only at h
      cases h80 : checkChandefPrimaryCompat a b .w80 with
      | err => rw [h80] at h; cases h
      | ok c =>
        rw [h80] at h
        exact hcheck (by decide) (h80.trans h)
      | next =>
        rw [h80] at h
        dsimp only at h
        by_cases hw : a.width = .w80p80
        · rw [if_pos hw] at h
          cases h
        · rw [if_neg hw] at h
          exact hcheck (by decide) h

/-- **Two chandefs are compatible** if they are identical, or one is the primary part of the other. -/
theorem compatible_eq : compatible hd a b = some c ↔
    (hd.identical a b = true ∧ c = b) ∨ (hd.identical a b = false ∧ ((Below a b ∧ c = b) ∨ (Below b a ∧ c = a))) := by
  unfold compatible compatibleRaw
  cases hid : hd.identical a b with
  | true =>
    rw [if_pos rfl]
    constructor
    · intro h
      cases h
      exact .inl ⟨rfl, rfl⟩
    · rintro (⟨-, rfl⟩ | ⟨h, -⟩)
      · rfl
      · cases h
  | false =>
    rw [if_neg (by decide)]
    constructor
    · intro h
      refine .inr ⟨rfl, ?_⟩
      split_ifs at h with hchan hwidth hnarrow hgt
      · have hn : a.width.narrowOrS1g = false ∧ b.width.narrowOrS1g = false := by simpa using hnarrow
        cases hc : compatibleNarrower b a with
        | ok r =>
          rw [hc] at h
          cases h
          exact .inr ((below_of_compatibleNarrower (not_not.1 hchan).symm hn.2 hn.1 hgt hc).symm)
        | err => rw [hc] at h; cases h
        | next => rw [hc] at h; cases h
      · have hn : a.width.narrowOrS1g = false ∧ b.width.narrowOrS1g = false := by simpa using hnarrow
        have hlt : a.width.toNat < b.width.toNat := by
          have hne : a.width.toNat ≠ b.width.toNat := fun h => hwidth (Width.toNat_injective h)
          omega
        cases hc : compatibleNarrower a b with
        | ok r =>
          rw [hc] at h
          cases h
          exact .inl ((below_of_compatibleNarrower (not_not.1 hchan) hn.1 hn.2 hlt hc).symm)
        | err => rw [hc] at h; cases h
        | next => rw [hc] at h; cases h
    · rintro (⟨h, -⟩ | ⟨-, ⟨h, rfl⟩ | ⟨h, rfl⟩⟩)
      · cases h
      · have hok := h.compatibleNarrower
        obtain ⟨hchan, ha, hb, hlt, -⟩ := h
        rw [if_neg (not_not_intro hchan), if_neg fun h => absurd (congrArg Width.toNat h) (Nat.ne_of_lt hlt),
          if_neg (by rw [ha, hb]; decide), if_neg (by omega), hok]
      · have hok := h.compatibleNarrower
        obtain ⟨hchan, ha, hb, hlt, -⟩ := h
        rw [if_neg (not_not_intro hchan.symm),
          if_neg fun h => absurd (congrArg Width.toNat h).symm (Nat.ne_of_lt hlt),
          if_neg (by rw [ha, hb]; decide), if_pos hlt, hok]

/-! ## The join -/

theorem below_of_identical_left (hid : hd.Identical) (h : hd.identical a b = true) (hb : Below b c) :
    Below a c := by
  obtain ⟨hchan, hwidth, hcf, -, -, hp⟩ := hid.fields a b h
  unfold Below at hb ⊢
  rw [hchan, hwidth, hcf, hp]
  exact hb

theorem below_of_identical_right (hid : hd.Identical) (hb : Below a b) (h : hd.identical b c = true) :
    Below a c := by
  obtain ⟨hchan, hwidth, hcf, -, -, hp⟩ := hid.fields b c h
  unfold Below ChanDef.primary ChanDef.control at hb ⊢
  rw [← hchan, ← hwidth, ← hcf, ← hp]
  exact hb

/-- **`cfg80211_chandef_compatible` takes the wider** of two chandefs of which one is within the other. -/
theorem compatible_joins (hid : hd.Identical) : Joins (Within hd) (compatible hd) where
  refl a := .inl (hid.refl a)
  trans := by
    rintro a b c (h1 | h1) (h2 | h2)
    · exact .inl (hid.trans a b c h1 h2)
    · exact .inr (below_of_identical_left hid h1 h2)
    · exact .inr (below_of_identical_right hid h1 h2)
    · exact .inr (h1.trans h2)
  upper := by
    intro a b r h
    rcases compatible_eq.1 h with ⟨hi, rfl⟩ | ⟨-, ⟨hb, rfl⟩ | ⟨hb, rfl⟩⟩
    · exact ⟨.inr rfl, .inl hi, .inl (hid.refl _)⟩
    · exact ⟨.inr rfl, .inr hb, .inl (hid.refl _)⟩
    · exact ⟨.inl rfl, .inl (hid.refl _), .inr hb⟩
  undefined := by
    intro a b h
    have hnone : ∀ c, compatible hd a b ≠ some c := fun c hc => by rw [h] at hc; cases hc
    have hnid : hd.identical a b = false := by
      cases hi : hd.identical a b with
      | false => rfl
      | true => exact absurd (compatible_eq.2 (.inl ⟨hi, rfl⟩)) (hnone b)
    rintro ((hi | hb) | (hi | hb))
    · rw [hi] at hnid
      cases hnid
    · exact hnone b (compatible_eq.2 (.inr ⟨hnid, .inl ⟨hb, rfl⟩⟩))
    · rw [hid.symm _ _ hi] at hnid
      cases hnid
    · exact hnone a (compatible_eq.2 (.inr ⟨hnid, .inr ⟨hb, rfl⟩⟩))

theorem compatible_isSome (hid : hd.Identical) : (compatible hd a b).isSome = true ↔ Comparable (Within hd) a b := by
  cases h : compatible hd a b with
  | none => exact ⟨nofun, fun hc => absurd hc ((compatible_joins hid).undefined h)⟩
  | some r =>
    obtain ⟨hr, ha, hb⟩ := (compatible_joins hid).upper h
    refine ⟨fun _ => ?_, fun _ => rfl⟩
    rcases hr with rfl | rfl
    · exact .inr hb
    · exact .inl ha

theorem identical_of_within (hid : hd.Identical) (h1 : Within hd a b) (h2 : Within hd b a) :
    hd.identical a b = true := by
  rcases h1 with h1 | h1
  · exact h1
  · rcases h2 with h2 | h2
    · exact hid.symm _ _ h2
    · exact absurd (Nat.lt_trans h1.2.2.2.1 h2.2.2.2.1) (Nat.lt_irrefl _)

theorem Within.mhz_le (hid : hd.Identical) (h : Within hd a b) : a.width.mhz ≤ b.width.mhz := by
  rcases h with h | ⟨-, ha, hb, hlt, -⟩
  · exact Nat.le_of_eq (congrArg Width.mhz (hid.fields a b h).2.1)
  · exact mhz_mono ha hb (Nat.le_of_lt hlt)

/-- **Primary parts of one chandef** are a chain exactly if no two of one width differ. -/
theorem chain_iff (hid : hd.Identical) {l : List ChanDef} {r : ChanDef} (hr : ∀ y ∈ l, Within hd y r) :
    Chain (Within hd) l ↔ ∀ a ∈ l, ∀ b ∈ l, a.width = b.width → hd.identical a b = true := by
  constructor
  · intro hc a ha b hb hw
    rcases hc a ha b hb with (h | h) | (h | h)
    · exact h
    · exact absurd (congrArg Width.toNat hw) (Nat.ne_of_lt h.2.2.2.1)
    · exact hid.symm _ _ h
    · exact absurd (congrArg Width.toNat hw).symm (Nat.ne_of_lt h.2.2.2.1)
  · intro hw a ha b hb
    have hj := compatible_joins hid
    rcases hr a ha with hia | hba
    · exact .inr (hj.trans (hr b hb) (.inl (hid.symm _ _ hia)))
    · rcases hr b hb with hib | hbb
      · exact .inl (hj.trans (.inr hba) (.inl (hid.symm _ _ hib)))
      · rcases Nat.lt_trichotomy a.width.toNat b.width.toNat with hlt | heq | hgt
        · exact .inl (.inr (hba.of_common hbb hlt))
        · exact .inl (.inl (hw a ha b hb (Width.toNat_injective heq)))
        · exact .inr (.inr (hbb.of_common hba hgt))

/-- Two valid chandefs of one width that are primary parts of a third one differ in the offset alone. -/
theorem Below.differ_in_offset (ha : Below a c) (hb : Below b c) (hw : a.width = b.width)
    (hwide : 1 < a.width.toNat) (hva : a.valid hd = true) (hvb : b.valid hd = true) :
    a.chan = b.chan ∧ a.centerFreq1 = b.centerFreq1 ∧ a.centerFreq2 = b.centerFreq2 ∧
      a.punctured = b.punctured := by
  have hcf2 : ∀ {d : ChanDef}, d.valid hd = true → 1 < d.width.toNat → d.width ≠ .w80p80 →
      d.width.narrowOrS1g = false → d.centerFreq2 = 0 := by
    intro d hv h1 hne hn
    cases hc : d.chan with
    | none =>
      rw [ChanDef.valid, hc] at hv
      cases hv
    | some chan =>
      rw [ChanDef.valid, hc] at hv
      simp only [Bool.and_eq_true] at hv
      have hf := hv.1.1.1.1.2
      unfold ChanDef.validFreqs at hf
      cases hdw : d.width <;> rw [hdw] at h1 hne hn hf <;>
        first | exact absurd h1 (by decide) | exact absurd rfl hne | exact of_decide_eq_true hf | cases hn
  obtain ⟨hca, hna, -, -, hpa⟩ := ha
  obtain ⟨hcb, hnb, -, -, hpb⟩ := hb
  have hnle : ¬ a.width.toNat ≤ Width.w20.toNat := fun h => absurd hwide (Nat.not_lt_of_le h)
  obtain ⟨hnea, hpa⟩ := hpa.resolve_left hnle
  obtain ⟨hneb, hpb⟩ := hpb.resolve_left (hw ▸ hnle)
  rw [hw, hpb] at hpa
  refine ⟨hca.trans hcb.symm, (congrArg Prod.fst hpa).symm, ?_, (congrArg Prod.snd hpa).symm⟩
  rw [hcf2 hva hwide hnea hna, hcf2 hvb (hw ▸ hwide) hneb hnb]

/-! ## The law of the join -/

/-- Both `NULL`, or both the same chandef. -/
def Agree (hd : Header) (r r' : Option ChanDef) : Prop :=
  (r = none ↔ r' = none) ∧ ∀ c c', r = some c → r' = some c' → hd.identical c c' = true

/-- `cfg80211_chandef_compatible` of the two is the same either way round, and gives the wider one. -/
def PairLaw (hd : Header) (a b : ChanDef) : Prop :=
  Agree hd (compatible hd a b) (compatible hd b a) ∧ ∀ c, compatible hd a b = some c →
    (c = a ∨ c = b) ∧ a.width.mhz ≤ c.width.mhz ∧ b.width.mhz ≤ c.width.mhz

/-- `cfg80211_chandef_compatible`, folded over a list: the same in every order, and not `NULL` exactly if the
    chandefs are pairwise compatible. -/
def FoldLaw (hd : Header) (x : ChanDef) (xs : List ChanDef) : Prop :=
  (∀ y ys, (y :: ys).Perm (x :: xs) →
      Agree hd (joinAll (compatible hd) y ys) (joinAll (compatible hd) x xs)) ∧
    ((joinAll (compatible hd) x xs).isSome = true ↔
      ∀ a ∈ x :: xs, ∀ b ∈ x :: xs, (compatible hd a b).isSome = true)

/-- If all are primary parts of one of the list, then no two of one width differ. -/
def OfOneWidth (hd : Header) (l : List ChanDef) : Prop :=
  ∀ r ∈ l, (∀ y ∈ l, Within hd y r) → ∀ a ∈ l, ∀ b ∈ l, a.width = b.width → hd.identical a b = true

theorem agree_of_same (hid : hd.Identical) {r r' : Option ChanDef} :
    Same (Within hd) r r' ↔ Agree hd r r' := by
  cases r with
  | none =>
    cases r' with
    | none => exact ⟨fun _ => ⟨Iff.rfl, fun _ _ h => (nomatch h)⟩, fun _ => trivial⟩
    | some c' => exact ⟨fun h => h.elim, fun h => (nomatch h.1.1 rfl)⟩
  | some c =>
    cases r' with
    | none => exact ⟨fun h => h.elim, fun h => (nomatch h.1.2 rfl)⟩
    | some c' =>
      constructor
      · intro h
        refine ⟨⟨fun h => (nomatch h), fun h => (nomatch h)⟩, fun d d' hd hd' => ?_⟩
        cases hd
        cases hd'
        exact identical_of_within hid h.1 h.2
      · intro h
        have hi := h.2 c c' rfl rfl
        exact ⟨.inl hi, .inl (hid.symm _ _ hi)⟩

theorem pairLaw (hid : hd.Identical) : PairLaw hd a b := by
  have hj := compatible_joins hid
  have hcomm : ∀ {a b}, (compatible hd a b).isSome = true → (compatible hd b a).isSome = true :=
    fun h => (compatible_isSome hid).2 ((compatible_isSome hid).1 h).symm
  have hnone : ∀ {a b}, compatible hd a b = none → compatible hd b a = none := by
    intro a b h
    cases hb : compatible hd b a with
    | none => rfl
    | some c =>
      have hs := hcomm (a := b) (b := a) (by rw [hb]; rfl)
      rw [h] at hs
      cases hs
  refine ⟨⟨⟨hnone, hnone⟩, fun c c' hc hc' => ?_⟩, fun c hc => ?_⟩
  · obtain ⟨hr, ha, hb⟩ := hj.upper hc
    obtain ⟨hr', hb', ha'⟩ := hj.upper hc'
    have hle : Within hd c c' := by rcases hr with rfl | rfl <;> assumption
    have hge : Within hd c' c := by rcases hr' with rfl | rfl <;> assumption
    exact identical_of_within hid hle hge
  · obtain ⟨hr, ha, hb⟩ := hj.upper hc
    exact ⟨hr, ha.mhz_le hid, hb.mhz_le hid⟩

theorem foldLaw_iff (hid : hd.Identical) {x : ChanDef} {xs : List ChanDef} :
    FoldLaw hd x xs ↔ OfOneWidth hd (x :: xs) := by
  have hpairs : (∀ a ∈ x :: xs, ∀ b ∈ x :: xs, (compatible hd a b).isSome = true) ↔
      Chain (Within hd) (x :: xs) :=
    forall₂_congr fun a _ => forall₂_congr fun b _ => compatible_isSome hid
  have hfold : FoldLaw hd x xs ↔ Independent (Within hd) (compatible hd) x xs := by
    unfold FoldLaw Independent
    rw [hpairs]
    exact and_congr_left' (forall₃_congr fun y ys _ => (agree_of_same hid).symm)
  rw [hfold, independent_iff (compatible_joins hid)]
  exact forall₂_congr fun r _ => forall_congr' fun hr => chain_iff hid hr

def Header.plain : Header where
  identical a b := a.chan = b.chan && a.width = b.width && a.centerFreq1 = b.centerFreq1 &&
    a.centerFreq2 = b.centerFreq2 && a.freq1Offset = b.freq1Offset && a.punctured = b.punctured
  isEdmg c := c.edmg.channels ≠ 0 || c.edmg.bwConfig ≠ 0
  chandefToKhz c := c.centerFreq1 * 1000 + c.freq1Offset.zeroExtend 32
  channelToKhz c := c.centerFreq * 1000 + c.freqOffset.zeroExtend 32
  s1gChannelWidth _ := .w1

theorem Header.plain_identical : Header.plain.Identical where
  refl a := by simp [Header.plain]
  symm a b h := by
    simp only [Header.plain, Bool.and_eq_true, decide_eq_true_eq] at h ⊢
    obtain ⟨⟨⟨⟨⟨h1, h2⟩, h3⟩, h4⟩, h5⟩, h6⟩ := h
    exact ⟨⟨⟨⟨⟨h1.symm, h2.symm⟩, h3.symm⟩, h4.symm⟩, h5.symm⟩, h6.symm⟩
  trans a b c h h' := by
    simp only [Header.plain, Bool.and_eq_true, decide_eq_true_eq] at h h' ⊢
    obtain ⟨⟨⟨⟨⟨h1, h2⟩, h3⟩, h4⟩, h5⟩, h6⟩ := h
    obtain ⟨⟨⟨⟨⟨g1, g2⟩, g3⟩, g4⟩, g5⟩, g6⟩ := h'
    exact ⟨⟨⟨⟨⟨h1.trans g1, h2.trans g2⟩, h3.trans g3⟩, h4.trans g4⟩, h5.trans g5⟩, h6.trans g6⟩
  fields a b h := by
    simp only [Header.plain, Bool.and_eq_true, decide_eq_true_eq] at h
    obtain ⟨⟨⟨⟨⟨h1, h2⟩, h3⟩, h4⟩, h5⟩, h6⟩ := h
    exact ⟨h1, h2, h3, h4, h5, h6⟩

/-- A chandef on channel 36, without puncturing. -/
def chandef36 (width : Width) (centerFreq1 : BitVec 32) (freq1Offset : BitVec 16) : ChanDef where
  chan := some { addr := 36, s1g := false, centerFreq := 5180, freqOffset := 0 }
  width := width
  centerFreq1 := centerFreq1
  centerFreq2 := 0
  edmg := { channels := 0, bwConfig := 0 }
  freq1Offset := freq1Offset
  punctured := 0

end Wireless.Chan
