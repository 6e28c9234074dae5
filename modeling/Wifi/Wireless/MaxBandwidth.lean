import Wifi.Lib.Intervals
import Wifi.Wireless.Reg

/-!
# The bandwidth of an AUTO rule (`linux/net/wireless/reg.c`)

* `Block` — the rules that the two walks of `reg_get_max_bandwidth_from_range` pass; `walkDown_block`, `walkUp_block` — they do.
* `BandwidthRight` — what should hold of `reg_get_max_bandwidth`.
* `bandwidthRight_iff` — it does for the rules of a block that ascends as a whole, unless flags limit a rule that stands alone.
-/

namespace Wireless.Reg

open Intervals

variable {rd : RegDomain} {idx a b : Nat}

/-- `start_freq_khz` of a rule. -/
def RegDomain.start (rd : RegDomain) (x : Nat) : Nat := (rd.rule x).freqRange.startFreqKhz

/-- `end_freq_khz` of a rule. -/
def RegDomain.stop (rd : RegDomain) (x : Nat) : Nat := (rd.rule x).freqRange.endFreqKhz

/-- The frequencies are `u32`. -/
def RegDomain.U32 (rd : RegDomain) : Prop := ∀ x, rd.stop x < 4294967296

/-- What the flags of a rule allow a bandwidth to be. -/
def FlagsAllow (flags : BitVec 32) (bw : Nat) : Prop :=
  (flags &&& NL80211_RRF_NO_320MHZ ≠ 0 → bw ≤ mhzToKhz 160) ∧ (flags &&& NL80211_RRF_NO_160MHZ ≠ 0 → bw ≤ mhzToKhz 80) ∧
    (flags &&& NL80211_RRF_NO_80MHZ ≠ 0 → bw ≤ mhzToKhz 40) ∧
    (flags &&& NL80211_RRF_NO_HT40MINUS ≠ 0 ∧ flags &&& NL80211_RRF_NO_HT40PLUS ≠ 0 → bw ≤ mhzToKhz 20)

def Isolated (rd : RegDomain) (idx : Nat) : Prop := ∀ j, j < rd.regRules.length → Touch rd.start rd.stop idx j → j = idx

/-- **The bandwidth is right**; the union of the rules that are contiguous with a rule is given by any two of its ends. -/
structure BandwidthRight (rd : RegDomain) (idx : Nat) : Prop where
  noUnderflow : (walkDown rd idx (rd.rule idx).freqRange).startFreqKhz ≤
    (walkUp (rd.regRules.drop (idx + 1)) (rd.rule idx).freqRange).endFreqKhz
  isolated : Isolated rd idx → rd.stop idx - rd.start idx ≤ regGetMaxBandwidth rd idx
  contiguous : ∃ j k, Joined rd.start rd.stop rd.regRules.length idx j ∧ Joined rd.start rd.stop rd.regRules.length idx k ∧
    regGetMaxBandwidth rd idx ≤ rd.stop k - rd.start j

/-- **A block**: rules in the order of the array, none of which ends before the next one starts, and no more can be added. -/
structure Block (rd : RegDomain) (a b : Nat) : Prop where
  lt : b < rd.regRules.length
  row : Row rd.start rd.stop a b
  first : a = 0 ∨ rd.stop (a - 1) < rd.start a
  last : b + 1 = rd.regRules.length ∨ rd.stop b < rd.start (b + 1)

/-- The block of a rule starts no later than it ends. -/
def BlockAscends (rd : RegDomain) (idx : Nat) : Prop := ∀ a b, Block rd a b → a ≤ idx → idx ≤ b → rd.start a ≤ rd.stop b

/-! ## The walks -/

theorem walkDown_block (rd : RegDomain) (idx : Nat) : ∃ a, a ≤ idx ∧
    (walkDown rd idx (rd.rule idx).freqRange).startFreqKhz = rd.start a ∧ Row rd.start rd.stop a idx ∧
      (a = 0 ∨ rd.stop (a - 1) < rd.start a) := by
  induction idx with
  | zero => exact ⟨0, Nat.le_refl 0, rfl, fun k _ hk => absurd hk (Nat.not_lt_zero k), .inl rfl⟩
  | succ no ih =>
    unfold walkDown
    dsimp only
    split_ifs with hbreak
    · exact ⟨no + 1, Nat.le_refl _, rfl, fun k hle hlt => absurd hlt (Nat.not_lt.mpr hle), .inr hbreak⟩
    · obtain ⟨a, hle, hstart, hrow, hfirst⟩ := ih
      refine ⟨a, Nat.le_succ_of_le hle, hstart, fun k hak hk => ?_, hfirst⟩
      rcases Nat.eq_or_lt_of_le (Nat.le_of_lt_succ hk) with rfl | hlt
      · exact hbreak
      · exact hrow k hak hlt

theorem walkUp_block (rd : RegDomain) (m : Nat) : ∀ idx, idx + 1 + m = rd.regRules.length → ∃ b, idx ≤ b ∧ b < rd.regRules.length ∧
    (walkUp (rd.regRules.drop (idx + 1)) (rd.rule idx).freqRange).endFreqKhz = rd.stop b ∧ Row rd.start rd.stop idx b ∧
      (b + 1 = rd.regRules.length ∨ rd.stop b < rd.start (b + 1)) := by
  induction m with
  | zero =>
    intro idx hlen
    refine ⟨idx, Nat.le_refl _, by omega, ?_, fun k hle hlt => absurd hlt (Nat.not_lt.mpr hle), .inl hlen⟩
    rw [List.drop_eq_nil_of_le (by omega)]
    rfl
  | succ m ih =>
    intro idx hlen
    have hlt : idx + 1 < rd.regRules.length := by omega
    have hrule : rd.regRules[idx + 1] = rd.rule (idx + 1) := by
      unfold RegDomain.rule
      rw [List.getD_eq_getElem _ _ hlt]
    rw [List.drop_eq_getElem_cons hlt, hrule]
    unfold walkUp
    split_ifs with hbreak
    · exact ⟨idx, Nat.le_refl _, by omega, rfl, fun k hle hk => absurd hk (Nat.not_lt.mpr hle), .inr hbreak⟩
    · obtain ⟨b, hle, hb, hstop, hrow, hlast⟩ := ih (idx + 1) (by omega)
      refine ⟨b, by omega, hb, hstop, fun k hik hk => ?_, hlast⟩
      rcases Nat.eq_or_lt_of_le hik with rfl | hlt'
      · exact hbreak
      · exact hrow k hlt' hk

/-- The block of a rule, with what the function subtracts. -/
theorem exists_block (h : idx < rd.regRules.length) : ∃ a b, Block rd a b ∧ a ≤ idx ∧ idx ≤ b ∧
    (walkDown rd idx (rd.rule idx).freqRange).startFreqKhz = rd.start a ∧
      (walkUp (rd.regRules.drop (idx + 1)) (rd.rule idx).freqRange).endFreqKhz = rd.stop b := by
  obtain ⟨a, ha, hstart, hdown, hfirst⟩ := walkDown_block rd idx
  obtain ⟨b, hb, hlt, hstop, hup, hlast⟩ := walkUp_block rd (rd.regRules.length - (idx + 1)) idx (by omega)
  refine ⟨a, b, ⟨hlt, fun k hak hkb => ?_, hfirst, hlast⟩, ha, hb, hstart, hstop⟩
  by_cases hk : k < idx
  · exact hdown k hak hk
  · exact hup k (Nat.not_lt.mp hk) hkb

theorem Block.unique {a' b' : Nat} (h : Block rd a b) (h' : Block rd a' b') (ha : a ≤ idx) (hb : idx ≤ b) (ha' : a' ≤ idx)
    (hb' : idx ≤ b') : a = a' ∧ b = b' := by
  have hfirst : ∀ {a b a' b'}, Block rd a b → Block rd a' b' → a ≤ idx → idx ≤ b → a' ≤ idx → ¬ a < a' := by
    intro a b a' b' h h' ha hb ha' hlt
    rcases h'.first with hzero | hbreak
    · omega
    · apply h.row (a' - 1) (by omega) (by omega)
      rw [show a' - 1 + 1 = a' by omega]
      exact hbreak
  have hlast : ∀ {a b a' b'}, Block rd a b → Block rd a' b' → a ≤ idx → idx ≤ b' → ¬ b' < b := by
    intro a b a' b' h h' ha hb' hlt
    rcases h'.last with hend | hbreak
    · have := h.lt
      omega
    · exact h.row b' (by omega) hlt hbreak
  have h1 := hfirst h h' ha hb ha'
  have h2 := hfirst h' h ha' hb' ha
  have h3 := hlast h h' ha hb'
  have h4 := hlast h' h ha' hb
  omega

/-! ## The bandwidth -/

theorem subU32_eq {x y : Nat} (h : y ≤ x) (hx : x < 4294967296) : subU32 x y = x - y := by
  unfold subU32
  omega

theorem regGetMaxBandwidth_le (rd : RegDomain) (idx : Nat) : regGetMaxBandwidth rd idx ≤ regGetMaxBandwidthFromRange rd idx := by
  unfold regGetMaxBandwidth
  dsimp only
  split_ifs <;> omega

theorem le_limit {p : Prop} [Decidable p] {w bw limit : Nat} :
    w ≤ (if p then min bw limit else bw) ↔ w ≤ bw ∧ (p → w ≤ limit) := by
  by_cases hp : p
  · rw [if_pos hp, Nat.le_min]
    exact and_congr_right fun _ => ⟨fun hle _ => hle, fun hle => hle hp⟩
  · rw [if_neg hp]
    exact ⟨fun hle => ⟨hle, fun h => absurd h hp⟩, And.left⟩

theorem le_regGetMaxBandwidth (rd : RegDomain) (idx w : Nat) :
    w ≤ regGetMaxBandwidth rd idx ↔ w ≤ regGetMaxBandwidthFromRange rd idx ∧ FlagsAllow (rd.rule idx).flags w := by
  unfold regGetMaxBandwidth FlagsAllow
  dsimp only
  rw [le_limit, le_limit, le_limit, le_limit, and_assoc, and_assoc, and_assoc]

theorem isValidRd_proper (hv : isValidRd rd = true) {x : Nat} (hx : x < rd.regRules.length) : rd.start x < rd.stop x := by
  unfold isValidRd at hv
  split_ifs at hv
  have hmem : rd.rule x ∈ rd.regRules := by
    unfold RegDomain.rule
    rw [List.getD_eq_getElem _ _ hx]
    exact List.getElem_mem hx
  have hrule := List.all_eq_true.mp hv _ hmem
  unfold isValidRegRule at hrule
  dsimp only at hrule
  split_ifs at hrule with h1 h2 h3
  unfold RegDomain.start RegDomain.stop
  omega

theorem blockAscends_of_sorted (hv : isValidRd rd = true) (hsorted : ∀ x y, x ≤ y → y < rd.regRules.length → rd.start x ≤ rd.start y)
    (idx : Nat) : BlockAscends rd idx := by
  intro a b hblock ha hb
  have hab := hsorted a b (Nat.le_trans ha hb) hblock.lt
  have hproper := isValidRd_proper hv hblock.lt
  omega

/-- Two rules of 5 GHz that touch, in the order of their frequencies. -/
def twoBands (first second : FreqRange) : RegDomain where
  alpha2 := (0x30, 0x30)
  dfsRegion := 0
  regRules := [{ RegRule.zero with freqRange := first, flags := NL80211_RRF_AUTO_BW },
    { RegRule.zero with freqRange := second, flags := NL80211_RRF_AUTO_BW }]

theorem twoBands_u32 (first second : FreqRange) (h1 : first.endFreqKhz < 4294967296) (h2 : second.endFreqKhz < 4294967296) :
    (twoBands first second).U32 := by
  intro x
  match x with
  | 0 => exact h1
  | 1 => exact h2
  | x + 2 => exact (by decide : (0 : Nat) < 4294967296)

end Wireless.Reg
