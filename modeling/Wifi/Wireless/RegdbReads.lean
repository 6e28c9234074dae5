import Wifi.Wireless.Regdb

/-!
# What the regulatory queries read

* `Checked`, `RuleChecked` — what `valid_regdb` has found out about a country and about a rule
  when it accepts; `validRegdb_checked`.
* `EndsAt` — the entry at which the walk of the countries ends, when the file holds it.
* `RulesFit` — each rule of a country lies in the file, up to the last field its length admits.
* `queries_inside` — the queries for a country stay inside an accepted file exactly when the
  walk for it ends inside and, where it ends at a country, the rules of that country fit.
-/

namespace Wireless.Regdb

open Reg ReadLog

variable {db : Mem} {size country rule wmm : Nat} {alpha2 : Byte × Byte}

/-! ## What the check finds out -/

/-- What `valid_rule` finds out about the rule at an offset. -/
structure RuleChecked (db : Mem) (size rule : Nat) : Prop where
  len_inside : rule + 1 ≤ size
  len_ge : offsetofendMaxBw ≤ (db rule).toNat
  wmm_inside : offsetofendWmmPtr ≤ (db rule).toNat →
    (be16 db (rule + 18)).value * 4 + sizeofWmmRule ≤ size

theorem validRule_checked {rulePtr : Nat} (h : (validRule db size rulePtr).value = true) :
    RuleChecked db size (rulePtr * 4) := by
  unfold validRule at h
  dsimp only at h
  by_cases hin : rulePtr * 4 + 1 > size
  · rw [if_pos hin] at h
    cases h
  rw [if_neg hin, value_bind, value_byte] at h
  by_cases hlen : (db (rulePtr * 4)).toNat < offsetofendMaxBw
  · rw [if_pos hlen] at h
    cases h
  rw [if_neg hlen] at h
  refine ⟨by omega, by omega, ?_⟩
  intro hw
  rw [if_pos hw, value_bind] at h
  by_cases hout : (be16 db (rulePtr * 4 + 18)).value * 4 + sizeofWmmRule > size
  · rw [if_pos hout] at h
    cases h
  · omega

def collOf (db : Mem) (country : Nat) : Nat := (collPtr db country).value * 4

/-- `coll->n_rules` -/
def nRulesOf (db : Mem) (country : Nat) : Nat := (db (collOf db country + 1)).toNat

/-- The offset of `rules_ptr[i]`. -/
def rulesPtrOf (db : Mem) (country i : Nat) : Nat :=
  collOf db country + align2 (db (collOf db country)).toNat + 2 * i

/-- The offset of the rule that `rules_ptr[i]` points to. -/
def ruleOf (db : Mem) (country i : Nat) : Nat := (be16 db (rulesPtrOf db country i)).value * 4

/-- What `valid_country` finds out about the country at an offset. -/
structure Checked (db : Mem) (size country : Nat) : Prop where
  base_inside : collOf db country + 3 ≤ size
  ptrs_inside : ∀ i, i < nRulesOf db country → rulesPtrOf db country i + 2 ≤ size
  rules : ∀ i, i < nRulesOf db country → RuleChecked db size (ruleOf db country i)

theorem validCountry_checked (h : (validCountry db size country).value = true) :
    Checked db size country := by
  unfold validCountry at h
  rw [value_bind] at h
  dsimp only at h
  have hc : (collPtr db country).value * 4 = collOf db country := rfl
  rw [hc] at h
  by_cases hbase : collOf db country + 2 > size
  · rw [if_pos hbase] at h
    cases h
  rw [if_neg hbase, value_bind, value_bind, value_byte, value_byte] at h
  have hn : (db (collOf db country + 1)).toNat = nRulesOf db country := rfl
  rw [hn] at h
  by_cases hptrs : collOf db country + align2 (db (collOf db country)).toNat +
      nRulesOf db country * 2 > size
  · rw [if_pos hptrs] at h
    cases h
  rw [if_neg hptrs] at h
  by_cases hlen : (db (collOf db country)).toNat < 3
  · rw [if_pos hlen] at h
    cases h
  rw [if_neg hlen, value_allFrom] at h
  have hal : 4 ≤ align2 (db (collOf db country)).toNat := by
    unfold align2
    omega
  refine ⟨by omega, ?_, ?_⟩
  · intro i hi
    unfold rulesPtrOf
    omega
  · intro i hi
    have hr := h i (Nat.zero_le _) (by omega)
    rw [value_bind] at hr
    exact validRule_checked hr

/-- The offset of `hdr->country[n]`. -/
def countryAt (n : Nat) : Nat := sizeofHeader + sizeofCountry * n

/-- The loop reaches each entry that lies inside and before which there is no terminator. -/
theorem validCountries_checked : ∀ (fuel c n : Nat),
    (validCountries db size fuel c).value = true → n < fuel →
    c + 4 * n + 4 ≤ size → (∀ k, k ≤ n → (collPtr db (c + 4 * k)).value ≠ 0) →
    Checked db size (c + 4 * n)
  | 0, _, _, _, hn, _, _ => absurd hn (Nat.not_lt_zero _)
  | fuel + 1, c, n, h, hn, hin, hptr => by
    have h0 : (collPtr db c).value ≠ 0 := hptr 0 (Nat.zero_le _)
    have hc : c + sizeofCountry ≤ size := by
      unfold sizeofCountry
      omega
    unfold validCountries at h
    rw [if_pos hc, value_bind, if_neg h0, value_bind] at h
    cases hv : (validCountry db size c).value with
    | false =>
      rw [hv] at h
      cases h
    | true =>
      rw [hv, if_pos rfl] at h
      cases n with
      | zero => exact validCountry_checked hv
      | succ n =>
        have e : c + 4 * (n + 1) = c + sizeofCountry + 4 * n := by
          unfold sizeofCountry
          omega
        rw [e]
        refine validCountries_checked fuel _ n h (by omega) (by omega) ?_
        intro k hk
        have e' : c + sizeofCountry + 4 * k = c + 4 * (k + 1) := by
          unfold sizeofCountry
          omega
        rw [e']
        exact hptr (k + 1) (by omega)

/-- **An accepted file has checked every country before its terminator.** -/
theorem validRegdb_checked {sig : Mem → Nat → Bool} (h : validRegdb sig db size = true) {n : Nat}
    (hin : countryAt n + sizeofCountry ≤ size)
    (hptr : ∀ k, k ≤ n → (collPtr db (countryAt k)).value ≠ 0) :
    Checked db size (countryAt n) := by
  unfold validRegdb at h
  by_cases h1 : size < sizeofHeader
  · rw [if_pos h1] at h
    cases h
  rw [if_neg h1] at h
  by_cases h2 : (be32 db 0).value ≠ FWDB_MAGIC
  · rw [if_pos h2] at h
    cases h
  rw [if_neg h2] at h
  by_cases h3 : (be32 db 4).value ≠ FWDB_VERSION
  · rw [if_pos h3] at h
    cases h
  rw [if_neg h3] at h
  by_cases h4 : (!sig db size) = true
  · rw [if_pos h4] at h
    cases h
  rw [if_neg h4] at h
  simp only [countryAt, sizeofHeader, sizeofCountry] at hin
  exact validCountries_checked size sizeofHeader n h (by omega)
    (by simp only [sizeofHeader]; omega) hptr

/-! ## What the parts of the queries read -/

theorem within_validWmm (h : wmm + sizeofWmmRule ≤ size) : Within size (validWmm db wmm) := by
  simp only [sizeofWmmRule] at h
  refine within_allFrom _ _ ?_
  intro i _ hi
  simp only [IEEE80211_NUM_ACS] at hi
  simp only [within_bind, within_byte, within_pure, and_true]
  omega

theorem within_wmmAc {ac : Nat} (h : ac + 4 ≤ size) : Within size (wmmAc db ac) := by
  simp only [wmmAc, within_bind, within_byte, within_be16, within_pure, and_true]
  omega

/-- `set_wmm_rule` reads the pointer of the rule, and nothing outside when that is inside. -/
theorem within_setWmmRule {rrule : RegRule} (hc : country + sizeofCountry ≤ size)
    (hw : (be16 db (rule + 18)).value * 4 + sizeofWmmRule ≤ size) :
    Within size (setWmmRule db country rule rrule) ↔ rule + offsetofendWmmPtr ≤ size := by
  simp only [sizeofWmmRule] at hw
  simp only [sizeofCountry] at hc
  unfold setWmmRule
  dsimp only
  rw [within_bind, within_be16]
  simp only [offsetofendWmmPtr]
  constructor
  · intro h
    exact h.1
  · intro hr
    refine ⟨hr, within_bind.mpr ⟨within_validWmm hw, within_ite.mpr ⟨fun _ => ?_, fun _ => ?_⟩⟩⟩
    · refine within_bind.mpr ⟨(within_collectFrom _ _).mpr ?_, within_pure _⟩
      intro i _ hi
      simp only [IEEE80211_NUM_ACS] at hi
      refine within_bind.mpr ⟨within_wmmAc (by omega), within_bind.mpr ⟨?_, within_pure _⟩⟩
      exact within_wmmAc (by omega)
    · simp only [within_bind, within_be32, within_byte, within_pure, and_true]
      omega

/-- The end of the last field that a rule of a given length has. -/
def ruleExtent (len : Nat) : Nat :=
  if len < offsetofendCacTimeout then offsetofendMaxBw
  else if len < offsetofendWmmPtr then offsetofendCacTimeout
  else offsetofendWmmPtr

theorem ruleExtent_cac {len : Nat} (h : len < offsetofendCacTimeout) :
    ruleExtent len = offsetofendMaxBw := if_pos h

theorem ruleExtent_wmm {len : Nat} (h : ¬ len < offsetofendCacTimeout)
    (hw : len < offsetofendWmmPtr) : ruleExtent len = offsetofendCacTimeout := by
  rw [ruleExtent, if_neg h, if_pos hw]

theorem ruleExtent_all {len : Nat} (hw : ¬ len < offsetofendWmmPtr) :
    ruleExtent len = offsetofendWmmPtr := by
  have h : ¬ len < offsetofendCacTimeout := by
    simp only [offsetofendCacTimeout, offsetofendWmmPtr] at hw ⊢
    omega
  rw [ruleExtent, if_neg h, if_neg hw]

theorem within_queryCac : Within size (queryCac db rule) ↔
    rule + 1 ≤ size ∧ (offsetofendCacTimeout ≤ (db rule).toNat →
      rule + offsetofendCacTimeout ≤ size) := by
  rw [queryCac, within_bind, value_byte, within_byte, within_ite]
  simp only [offsetofendCacTimeout, within_bind, within_be16, within_pure, and_true, implies_true]
  omega

/-- **A round of `regdb_query_country` reads its rule up to the last field it has.** -/
theorem within_queryRule (hc : country + sizeofCountry ≤ size) (hr : RuleChecked db size rule) :
    Within size (queryRule db country rule) ↔ rule + ruleExtent (db rule).toNat ≤ size := by
  obtain ⟨hlen, -, hwmm⟩ := hr
  unfold queryRule
  iterate 7 rw [within_bind]
  rw [within_ite, within_queryCac]
  simp only [within_be32, within_be16, within_byte, value_byte, within_pure, implies_true, and_true,
    ge_iff_le]
  have hset : ∀ rrule, (offsetofendWmmPtr ≤ (db rule).toNat →
      Within size (setWmmRule db country rule rrule)) ↔
      (offsetofendWmmPtr ≤ (db rule).toNat → rule + offsetofendWmmPtr ≤ size) := fun rrule =>
    imp_congr_right fun h => within_setWmmRule hc (hwmm h)
  rw [hset]
  by_cases h18 : (db rule).toNat < offsetofendCacTimeout
  · rw [ruleExtent_cac h18]
    simp only [offsetofendCacTimeout, offsetofendWmmPtr, offsetofendMaxBw] at *
    omega
  by_cases h20 : (db rule).toNat < offsetofendWmmPtr
  · rw [ruleExtent_wmm h18 h20]
    simp only [offsetofendCacTimeout, offsetofendWmmPtr] at *
    omega
  · rw [ruleExtent_all h20]
    simp only [offsetofendCacTimeout, offsetofendWmmPtr] at *
    omega

/-- Each rule of the country lies inside, up to the last field it has. -/
def RulesFit (db : Mem) (size country : Nat) : Prop :=
  ∀ i, i < nRulesOf db country →
    ruleOf db country i + ruleExtent (db (ruleOf db country i)).toNat ≤ size

/-- **`regdb_query_country` stays inside exactly when the rules fit.** -/
theorem within_regdbQueryCountry (hc : country + sizeofCountry ≤ size)
    (hk : Checked db size country) :
    Within size (regdbQueryCountry db true country) ↔ RulesFit db size country := by
  obtain ⟨hbase, hptrs, hrules⟩ := hk
  have hround : ∀ i, i < nRulesOf db country →
      (Within size (do
        let len ← byte db (collOf db country)
        let rulePtr ← be16 db (collOf db country + align2 len.toNat + 2 * i)
        queryRule db country (rulePtr * 4)) ↔
      ruleOf db country i + ruleExtent (db (ruleOf db country i)).toNat ≤ size) := by
    intro i hi
    rw [within_bind, within_bind, within_byte, within_be16]
    have hp : rulesPtrOf db country i + 2 ≤ size := hptrs i hi
    have hq := within_queryRule hc (hrules i hi)
    exact ⟨fun h => hq.mp h.2.2, fun h => ⟨by omega, hp, hq.mpr h⟩⟩
  unfold regdbQueryCountry
  dsimp only
  have hcoll : (collPtr db country).value * 4 = collOf db country := rfl
  have hn : (db (collOf db country + 1)).toNat = nRulesOf db country := rfl
  rw [within_bind, within_bind, hcoll, if_pos rfl, value_byte, hn, within_bind, within_bind,
    within_bind, within_bind, within_collectFrom]
  simp only [collPtr, within_be16, within_byte, within_pure, and_true]
  simp only [sizeofCountry] at hc
  constructor
  · intro h i hi
    exact (hround i hi).mp (h.2.2.2.2.2 i (Nat.zero_le _) (by omega))
  · intro h
    refine ⟨by omega, by omega, by omega, by omega, by omega, ?_⟩
    intro i _ hi
    exact (hround i (by omega)).mpr (h i (by omega))

/-- A domain that could not be allocated costs no read of a rule. -/
theorem within_regdbQueryCountry_noMem (hc : country + sizeofCountry ≤ size)
    (hk : Checked db size country) : Within size (regdbQueryCountry db false country) := by
  have hbase := hk.base_inside
  have hcoll : (collPtr db country).value * 4 = collOf db country := rfl
  unfold regdbQueryCountry
  dsimp only
  rw [within_bind, within_bind, hcoll, if_neg (by decide)]
  simp only [collPtr, within_be16, within_byte, within_pure, and_true]
  simp only [sizeofCountry] at hc
  omega

theorem within_regdbQueryWmm {freq : Int} {rrule : RegRule} (hc : country + sizeofCountry ≤ size)
    (hk : Checked db size country) (hfit : RulesFit db size country) :
    Within size (regdbQueryWmm db country freq rrule) := by
  obtain ⟨hbase, hptrs, hrules⟩ := hk
  have hcoll : (collPtr db country).value * 4 = collOf db country := rfl
  have hn : (db (collOf db country + 1)).toNat = nRulesOf db country := rfl
  unfold regdbQueryWmm
  dsimp only
  rw [within_bind, within_bind, within_bind, hcoll, value_byte, hn]
  refine ⟨?_, by rw [within_byte]; omega, ?_, ?_⟩
  · rw [collPtr, within_be16]
    simp only [sizeofCountry] at hc
    omega
  · refine within_firstFrom _ _ ?_
    intro i _ hi
    have hi : i < nRulesOf db country := by omega
    have hp : rulesPtrOf db country i + 2 ≤ size := hptrs i hi
    have hr := hrules i hi
    have he := hfit i hi
    have hrule : (be16 db (collOf db country +
        align2 ((byte db (collOf db country)).value).toNat + 2 * i)).value * 4 =
        ruleOf db country i := rfl
    rw [within_bind, within_bind, within_bind, within_byte, within_be16, within_byte, hrule,
      within_ite]
    refine ⟨by omega, hp, hr.len_inside, fun _ => within_pure _, ?_⟩
    intro hlen
    rw [value_byte] at hlen
    rw [ruleExtent_all hlen] at he
    have hset : ∀ rrule, Within size (setWmmRule db country (ruleOf db country i) rrule) :=
      fun rrule => (within_setWmmRule hc (hr.wmm_inside (Nat.le_of_not_lt hlen))).mpr he
    simp only [offsetofendWmmPtr] at he
    rw [within_bind, within_bind, within_be32, within_be32, within_ite]
    refine ⟨by omega, by omega, fun _ => within_bind.mpr ⟨hset _, within_pure _⟩, ?_⟩
    exact fun _ => within_pure _
  · cases (firstFrom _ _ _).value with
    | none => exact within_pure _
    | some r => exact within_pure _

/-! ## The walk of the countries -/

/-- The walk for a country stops at an entry: the terminator, or the country itself. -/
def StopsAt (db : Mem) (alpha2 : Byte × Byte) (country : Nat) : Prop :=
  (collPtr db country).value = 0 ∨ alpha2 = (db country, db (country + 1))

/-- The file holds the entry `hdr->country[n]` and the walk stops there first. -/
structure EndsAt (db : Mem) (size : Nat) (alpha2 : Byte × Byte) (n : Nat) : Prop where
  inside : countryAt n + sizeofCountry ≤ size
  stops : StopsAt db alpha2 (countryAt n)
  before : ∀ k, k < n → ¬ StopsAt db alpha2 (countryAt k)

theorem value_alpha2Equal : (alpha2Equal db alpha2 country).value = true ↔
    alpha2 = (db country, db (country + 1)) := by
  obtain ⟨a, b⟩ := alpha2
  unfold alpha2Equal
  rw [value_bind, value_byte, Prod.mk.injEq]
  by_cases ha : a = db country
  · rw [if_pos ha, value_bind, value_byte, value_pure, decide_eq_true_eq]
    exact ⟨fun h => ⟨ha, h⟩, fun h => h.2⟩
  · rw [if_neg ha, value_pure]
    exact ⟨nofun, fun h => absurd h.1 ha⟩

theorem within_alpha2Equal (hc : country + sizeofCountry ≤ size) :
    Within size (alpha2Equal db alpha2 country) := by
  simp only [sizeofCountry] at hc
  unfold alpha2Equal
  rw [within_bind, within_byte, within_ite]
  refine ⟨by omega, fun _ => ?_, fun _ => within_pure _⟩
  rw [within_bind, within_byte]
  exact ⟨by omega, within_pure _⟩

theorem countryWalk_succ (fuel c : Nat) : (countryWalk db alpha2 (fuel + 1) c).value =
    if (collPtr db c).value = 0 then some none
    else if alpha2 = (db c, db (c + 1)) then some (some c)
    else (countryWalk db alpha2 fuel (c + sizeofCountry)).value := by
  rw [countryWalk, value_bind]
  by_cases h0 : (collPtr db c).value = 0
  · rw [if_pos h0, if_pos h0, value_pure]
  rw [if_neg h0, if_neg h0, value_bind]
  by_cases ha : alpha2 = (db c, db (c + 1))
  · rw [if_pos (value_alpha2Equal.mpr ha), if_pos ha, value_pure]
  · rw [if_neg (fun h => ha (value_alpha2Equal.mp h)), if_neg ha]

theorem inside_of_walk {fuel c : Nat} (h : Within size (countryWalk db alpha2 (fuel + 1) c)) :
    c + sizeofCountry ≤ size := by
  rw [countryWalk, within_bind, collPtr, within_be16] at h
  exact h.1

theorem within_countryWalk_succ {fuel c : Nat} (hin : c + sizeofCountry ≤ size)
    (hrest : ¬ StopsAt db alpha2 c → Within size (countryWalk db alpha2 fuel (c + sizeofCountry))) :
    Within size (countryWalk db alpha2 (fuel + 1) c) := by
  rw [countryWalk, within_bind, within_ite]
  refine ⟨by rw [collPtr, within_be16]; exact hin, fun _ => within_pure _, fun h0 => ?_⟩
  rw [within_bind, within_ite]
  refine ⟨within_alpha2Equal hin, fun _ => within_pure _, fun ha => hrest ?_⟩
  exact fun hs => hs.elim h0 fun h => ha (value_alpha2Equal.mpr h)

theorem countryAt_succ (n : Nat) : countryAt n + sizeofCountry = countryAt (n + 1) := by
  unfold countryAt sizeofCountry
  omega

/-- The walk from an entry on, when it ends at a later one. -/
theorem countryWalk_of_endsAt {n : Nat} (h : EndsAt db size alpha2 n) : ∀ (fuel m : Nat), m ≤ n →
    Within size (countryWalk db alpha2 fuel (countryAt m)) ∧
    (countryWalk db alpha2 fuel (countryAt m)).value =
      if fuel ≤ n - m then none
      else if (collPtr db (countryAt n)).value = 0 then some none
      else some (some (countryAt n))
  | 0, m, _ => ⟨within_pure _, by rw [if_pos (Nat.zero_le _)]; rfl⟩
  | fuel + 1, m, hm => by
    have hin : countryAt m + sizeofCountry ≤ size := by
      have := h.inside
      simp only [countryAt, sizeofCountry] at this ⊢
      omega
    by_cases hmn : m = n
    · subst hmn
      refine ⟨within_countryWalk_succ hin fun hs => absurd h.stops hs, ?_⟩
      rw [countryWalk_succ, if_neg (by omega : ¬ fuel + 1 ≤ m - m)]
      by_cases h0 : (collPtr db (countryAt m)).value = 0
      · rw [if_pos h0, if_pos h0]
      · rw [if_neg h0, if_neg h0, if_pos (h.stops.resolve_left h0)]
    · have ih := countryWalk_of_endsAt h fuel (m + 1) (by omega)
      have hgo : ¬ StopsAt db alpha2 (countryAt m) := h.before m (by omega)
      rw [← countryAt_succ] at ih
      refine ⟨within_countryWalk_succ hin fun _ => ih.1, ?_⟩
      rw [countryWalk_succ, if_neg fun h0 => hgo (.inl h0), if_neg fun ha => hgo (.inr ha), ih.2]
      have e : (fuel ≤ n - (m + 1)) = (fuel + 1 ≤ n - m) := propext (by omega)
      simp only [e]

/-- A walk that stays inside and comes to an end does so at an entry of the file. -/
theorem endsAt_of_countryWalk : ∀ (fuel m : Nat),
    Within size (countryWalk db alpha2 fuel (countryAt m)) →
    (countryWalk db alpha2 fuel (countryAt m)).value ≠ none →
    (∀ k, k < m → ¬ StopsAt db alpha2 (countryAt k)) → ∃ n, EndsAt db size alpha2 n
  | 0, _, _, hv, _ => absurd rfl hv
  | fuel + 1, m, hw, hv, hb => by
    have hin := inside_of_walk hw
    by_cases hs : StopsAt db alpha2 (countryAt m)
    · exact ⟨m, hin, hs, hb⟩
    · have h0 : ¬ (collPtr db (countryAt m)).value = 0 := fun h => hs (.inl h)
      have ha : ¬ alpha2 = (db (countryAt m), db (countryAt m + 1)) := fun h => hs (.inr h)
      rw [countryWalk_succ, if_neg h0, if_neg ha, countryAt_succ] at hv
      rw [countryWalk, within_bind, if_neg h0, within_bind,
        if_neg fun h => ha (value_alpha2Equal.mp h), countryAt_succ] at hw
      refine endsAt_of_countryWalk fuel (m + 1) hw.2.2 hv ?_
      intro k hk
      by_cases hkm : k = m
      · rwa [hkm]
      · exact hb k (by omega)

/-! ## Both queries -/

/-- The walk for a country comes to an end, and both queries for it read the file only:
whatever the frequency, the rule to be filled in and the memory for the domain. -/
structure Covered (db : Mem) (size : Nat) (alpha2 : Byte × Byte) : Prop where
  ends : ∃ fuel, (countryWalk db alpha2 fuel sizeofHeader).value ≠ none
  walk : ∀ fuel, Within size (countryWalk db alpha2 fuel sizeofHeader)
  query : ∀ fuel kzalloc, Within size (queryRegdb (.ok db) kzalloc alpha2 fuel)
  wmm : ∀ fuel freq rule, Within size (regQueryRegdbWmm (some (.ok db)) alpha2 freq rule fuel)

/-- **The queries for a country read inside an accepted file exactly when the walk ends at an
entry of the file and, unless that is the terminator, its rules fit.** -/
theorem queries_inside (sig : Mem → Nat → Bool) {db : Mem} {size : Nat} (alpha2 : Byte × Byte)
    (h : validRegdb sig db size = true) :
    Covered db size alpha2 ↔ ∃ n, EndsAt db size alpha2 n ∧
      ((collPtr db (countryAt n)).value ≠ 0 → RulesFit db size (countryAt n)) := by
  have hchecked : ∀ n, EndsAt db size alpha2 n → (collPtr db (countryAt n)).value ≠ 0 →
      Checked db size (countryAt n) := by
    intro n hn hne
    refine validRegdb_checked h hn.inside ?_
    intro k hk hk0
    by_cases hkn : k = n
    · exact hne (hkn ▸ hk0)
    · exact hn.before k (by omega) (.inl hk0)
  constructor
  · rintro ⟨⟨fuel, hends⟩, hwalk, hquery, -⟩
    obtain ⟨n, hn⟩ := endsAt_of_countryWalk fuel 0 (hwalk fuel) hends
      fun k hk => absurd hk (Nat.not_lt_zero k)
    refine ⟨n, hn, ?_⟩
    intro hne
    have hq := hquery (n + 1) true
    have hv := (countryWalk_of_endsAt hn (n + 1) 0 (Nat.zero_le _)).2
    rw [if_neg (by omega), if_neg hne] at hv
    have hv : (countryWalk db alpha2 (n + 1) sizeofHeader).value = some (some (countryAt n)) := hv
    simp only [queryRegdb, within_bind, hv] at hq
    exact (within_regdbQueryCountry hn.inside (hchecked n hn hne)).mp hq.2.1
  · rintro ⟨n, hn, hfit⟩
    have hwalk := fun fuel => countryWalk_of_endsAt hn fuel 0 (Nat.zero_le _)
    have hw : ∀ fuel, Within size (countryWalk db alpha2 fuel sizeofHeader) := fun fuel =>
      (hwalk fuel).1
    have hv : ∀ fuel, (countryWalk db alpha2 fuel sizeofHeader).value = none ∨
        (countryWalk db alpha2 fuel sizeofHeader).value = some none ∨
        (countryWalk db alpha2 fuel sizeofHeader).value = some (some (countryAt n)) ∧
          (collPtr db (countryAt n)).value ≠ 0 := by
      intro fuel
      have e : (countryWalk db alpha2 fuel sizeofHeader).value = _ := (hwalk fuel).2
      rw [e]
      by_cases hf : fuel ≤ n - 0
      · exact .inl (if_pos hf)
      rw [if_neg hf]
      by_cases h0 : (collPtr db (countryAt n)).value = 0
      · exact .inr (.inl (if_pos h0))
      · exact .inr (.inr ⟨if_neg h0, h0⟩)
    refine ⟨⟨n + 1, ?_⟩, hw, ?_, ?_⟩
    · have e : (countryWalk db alpha2 (n + 1) sizeofHeader).value = _ := (hwalk (n + 1)).2
      rw [e, if_neg (by omega)]
      by_cases h0 : (collPtr db (countryAt n)).value = 0
      · rw [if_pos h0]
        exact Option.some_ne_none _
      · rw [if_neg h0]
        exact Option.some_ne_none _
    · intro fuel kzalloc
      refine within_bind.mpr ⟨hw fuel, ?_⟩
      obtain e | e | ⟨e, hne⟩ := hv fuel
      · rw [e]
        exact within_pure _
      · rw [e]
        exact within_pure _
      · rw [e]
        refine within_bind.mpr ⟨?_, within_pure _⟩
        cases kzalloc with
        | true => exact (within_regdbQueryCountry hn.inside (hchecked n hn hne)).mpr (hfit hne)
        | false => exact within_regdbQueryCountry_noMem hn.inside (hchecked n hn hne)
    · intro fuel freq rule
      refine within_bind.mpr ⟨hw fuel, ?_⟩
      obtain e | e | ⟨e, hne⟩ := hv fuel
      · rw [e]
        exact within_pure _
      · rw [e]
        exact within_pure _
      · rw [e]
        refine within_bind.mpr ⟨?_, within_pure _⟩
        exact within_regdbQueryWmm hn.inside (hchecked n hn hne) (hfit hne)

/-- The memory of a file; the bytes behind it are zero. -/
def memOf (file : List Byte) : Mem := fun a => file.getD a 0

/-- One country, "US", with one rule, and the terminator. -/
def wholeFile : List Byte :=
  [0x52, 0x47, 0x44, 0x42, 0, 0, 0, 20, 0x55, 0x53, 0, 4, 0, 0, 0, 0,
    4, 1, 0, 0, 0, 6, 0, 0, 16, 0, 0, 100, 0, 0, 9, 0, 0, 0, 10, 0, 0, 0, 1, 0]

theorem queries_inside_whole : Covered (memOf wholeFile) 40 (0x55, 0x53) := by
  refine (queries_inside (fun _ _ => true) (0x55, 0x53) (by decide)).mpr ⟨0, ⟨?_, ?_, ?_⟩, ?_⟩
  · decide
  · exact .inr rfl
  · intro k hk
    exact absurd hk (Nat.not_lt_zero k)
  · intro _
    unfold RulesFit
    decide

def openFile : List Byte :=
  [0x52, 0x47, 0x44, 0x42, 0, 0, 0, 20, 0x55, 0x53, 0, 3, 4, 0, 0, 3]

/-- `wholeFile` up to the first byte of its rule. -/
def cutFile : List Byte := wholeFile.take 25

/-- **A file without terminator and a file that ends inside a rule are accepted and read past
their end**, by the walk for "AA" and by the query for "US". -/
theorem accepted_read_past : (validRegdb (fun _ _ => true) (memOf openFile) 16 = true ∧
    ¬ Covered (memOf openFile) 16 (0x41, 0x41)) ∧
    validRegdb (fun _ _ => true) (memOf cutFile) 25 = true ∧
    ¬ Covered (memOf cutFile) 25 (0x55, 0x53) := by
  refine ⟨⟨by decide, ?_⟩, by decide, ?_⟩
  · intro h
    exact absurd (h.walk 3) (by decide)
  · intro h
    exact absurd (h.query 1 true) (by decide)

end Wireless.Regdb
