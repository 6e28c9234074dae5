import Mathlib.Data.Nat.Find
import Wifi.Lib.FirstMatch
import Wifi.Wireless.Reg

/-!
# What the intersection of two domains grants

* `built` — the rules that `regdom_intersect` adds, in their order.
* `Intersection` — every valid intersection is contained in a rule, and nothing else is; `intersect_complete`.
* `FirstFit` — the first rule of a domain that fits a channel; `query_firstFit`.
* `Undisplaced`, `Comparable` — no later pair of rules takes an earlier place in the list, and the bands agree.
* `query_intersect` — the rule that is found is that of the first rules that fit.
* `intersect_grants_no_more` — so it grants no more than they do, but for a limit that nothing sets.
-/

namespace Wireless.Reg

variable {rd1 rd2 rd : RegDomain} {c bw : Nat}

def fits (c bw : Nat) (rule : RegRule) : Bool := doesBwFitRange rule.freqRange c bw

/-! ## Rules -/

theorem addRule_eq (rule : RegRule) (l : List RegRule) :
    addRule rule l = FirstMatch.absorb ruleContains rule l := by
  induction l with
  | nil => rfl
  | cons tmp rest ih =>
    unfold addRule FirstMatch.absorb
    rw [ih]

theorem fits_iff {r : RegRule} : fits c bw r = true ↔ r.freqRange.startFreqKhz ≤ subU32 c (bw / 2) ∧
    addU32 c (bw / 2) ≤ r.freqRange.endFreqKhz := by
  unfold fits doesBwFitRange
  rw [decide_eq_true_eq]

theorem fits_of_contains {r r' : RegRule} (h : ruleContains r r' = true) (hf : fits c bw r' = true) :
    fits c bw r = true := by
  unfold ruleContains at h
  split_ifs at h with h1 h2 h3 h4
  rw [fits_iff] at hf ⊢
  omega

/-- The intersection of two rules, but for what `intersected_rule` held before. -/
def overlap (rd1 rd2 : RegDomain) (x y : Nat) : RegRule := regRulesIntersect rd1 rd2 x y .zero

section Overlap

variable {x y x' y' : Nat} {old old' : RegRule}

theorem fits_overlap : fits c bw (overlap rd1 rd2 x y) = true ↔
    fits c bw (rd1.rule x) = true ∧ fits c bw (rd2.rule y) = true := by
  rw [fits_iff, fits_iff, fits_iff]
  show max _ _ ≤ _ ∧ _ ≤ min _ _ ↔ _
  omega

end Overlap

/-! ## The rules that are added -/

/-- The valid intersections, in the order of the loops. -/
def built (rd1 rd2 : RegDomain) : List (Nat × Nat) → RegRule → List RegRule
  | [], _ => []
  | (x, y) :: rest, old =>
    let rule := regRulesIntersect rd1 rd2 x y old
    if isValidRegRule rule then rule :: built rd1 rd2 rest rule else built rd1 rd2 rest rule

section Built

variable {x y : Nat} {l l' : List (Nat × Nat)} {old r : RegRule}

theorem built_cons : built rd1 rd2 ((x, y) :: l) old =
    if isValidRegRule (overlap rd1 rd2 x y) then
      regRulesIntersect rd1 rd2 x y old :: built rd1 rd2 l (regRulesIntersect rd1 rd2 x y old)
    else built rd1 rd2 l (regRulesIntersect rd1 rd2 x y old) := rfl

theorem countLoop_eq (l : List (Nat × Nat)) : ∀ old : RegRule,
    (countLoop rd1 rd2 l old).1 = (built rd1 rd2 l old).length ∧ (countLoop rd1 rd2 l old).2.psd = old.psd := by
  induction l with
  | nil => exact fun _ => ⟨rfl, rfl⟩
  | cons v rest ih =>
    intro old
    obtain ⟨x, y⟩ := v
    obtain ⟨h1, h2⟩ := ih (regRulesIntersect rd1 rd2 x y old)
    unfold countLoop built
    dsimp only
    refine ⟨?_, h2⟩
    split_ifs
    · rw [List.length_cons, h1]
    · exact h1

theorem buildLoop_eq (l : List (Nat × Nat)) : ∀ (old : RegRule) (rules : List RegRule),
    buildLoop rd1 rd2 l old rules =
      (built rd1 rd2 l old).foldl (fun l x => FirstMatch.absorb ruleContains x l) rules := by
  induction l with
  | nil => exact fun _ _ => rfl
  | cons v rest ih =>
    intro old rules
    obtain ⟨x, y⟩ := v
    unfold buildLoop built
    dsimp only
    split_ifs
    · rw [ih, List.foldl_cons, addRule_eq]
    · rw [ih]

theorem mem_built (h : r ∈ built rd1 rd2 l old) : ∃ v ∈ l, ∃ old', old'.psd = old.psd ∧
    r = regRulesIntersect rd1 rd2 v.1 v.2 old' ∧ isValidRegRule (overlap rd1 rd2 v.1 v.2) = true := by
  induction l generalizing old with
  | nil => cases h
  | cons v rest ih =>
    obtain ⟨x, y⟩ := v
    unfold built at h
    dsimp only at h
    have hrest : r ∈ built rd1 rd2 rest (regRulesIntersect rd1 rd2 x y old) → ∃ v ∈ (x, y) :: rest, ∃ old',
        old'.psd = old.psd ∧ r = regRulesIntersect rd1 rd2 v.1 v.2 old' ∧
          isValidRegRule (overlap rd1 rd2 v.1 v.2) = true := by
      intro h
      obtain ⟨v, hv, old', hp, hr⟩ := ih h
      exact ⟨v, List.mem_cons_of_mem _ hv, old', hp, hr⟩
    split_ifs at h with hvalid
    · rcases List.mem_cons.1 h with rfl | h
      · exact ⟨(x, y), List.mem_cons_self, old, rfl, rfl, hvalid⟩
      · exact hrest h
    · exact hrest h

/-- The rule of one pair, among those before and those after. -/
theorem built_split (hvalid : isValidRegRule (overlap rd1 rd2 x y) = true) : ∃ old' old'', old'.psd = old.psd ∧
    built rd1 rd2 (l ++ (x, y) :: l') old =
      built rd1 rd2 l old ++ regRulesIntersect rd1 rd2 x y old' :: built rd1 rd2 l' old'' := by
  induction l generalizing old with
  | nil =>
    refine ⟨old, regRulesIntersect rd1 rd2 x y old, rfl, ?_⟩
    rw [List.nil_append, built_cons, if_pos hvalid]
    rfl
  | cons v rest ih =>
    obtain ⟨x', y'⟩ := v
    obtain ⟨old', old'', hp, hb⟩ := @ih (regRulesIntersect rd1 rd2 x' y' old)
    refine ⟨old', old'', hp, ?_⟩
    rw [List.cons_append, built_cons, built_cons, hb]
    split_ifs
    · rfl
    · rfl

/-- What holds of the pairs one after the other, whatever the variable held, holds of their rules. -/
theorem built_pairwise {R : RegRule → RegRule → Prop} (hl : l.Pairwise fun v w => ∀ old old',
    isValidRegRule (overlap rd1 rd2 v.1 v.2) = true → isValidRegRule (overlap rd1 rd2 w.1 w.2) = true →
      R (regRulesIntersect rd1 rd2 v.1 v.2 old) (regRulesIntersect rd1 rd2 w.1 w.2 old')) :
    (built rd1 rd2 l old).Pairwise R := by
  induction l generalizing old with
  | nil => exact List.Pairwise.nil
  | cons v rest ih =>
    obtain ⟨hv, hrest⟩ := List.pairwise_cons.1 hl
    obtain ⟨x, y⟩ := v
    unfold built
    dsimp only
    split_ifs with hvalid
    · refine List.pairwise_cons.2 ⟨?_, ih hrest⟩
      intro r hr
      obtain ⟨w, hw, old', -, rfl, hvw⟩ := mem_built hr
      exact hv w hw old old' hvalid hvw
    · exact ih hrest

end Built

/-! ## Pairs of rules -/

def Before (v w : Nat × Nat) : Prop := v.1 < w.1 ∨ v.1 = w.1 ∧ v.2 < w.2

theorem mem_pairs {v : Nat × Nat} : v ∈ pairs rd1 rd2 ↔ v.1 < rd1.regRules.length ∧ v.2 < rd2.regRules.length := by
  unfold pairs
  rw [List.mem_flatMap]
  constructor
  · rintro ⟨x, hx, hv⟩
    obtain ⟨y, hy, rfl⟩ := List.mem_map.1 hv
    exact ⟨List.mem_range.1 hx, List.mem_range.1 hy⟩
  · rintro ⟨hx, hy⟩
    exact ⟨v.1, List.mem_range.2 hx, List.mem_map.2 ⟨v.2, List.mem_range.2 hy, rfl⟩⟩

theorem pairs_pairwise : (pairs rd1 rd2).Pairwise Before := by
  unfold pairs
  rw [List.pairwise_flatMap]
  refine ⟨?_, ?_⟩
  · intro x _
    rw [List.pairwise_map]
    exact List.pairwise_lt_range.imp fun h => .inr ⟨rfl, h⟩
  · refine List.pairwise_lt_range.imp ?_
    intro x x' hx v hv w hw
    obtain ⟨y, -, rfl⟩ := List.mem_map.1 hv
    obtain ⟨y', -, rfl⟩ := List.mem_map.1 hw
    exact .inl hx

/-! ## The rules of the intersection -/

theorem ruleContains_iff {r1 r2 : RegRule} : ruleContains r1 r2 = true ↔ r1.flags = r2.flags ∧
    r1.powerRule.maxAntennaGain ≤ r2.powerRule.maxAntennaGain ∧ r1.powerRule.maxEirp ≤ r2.powerRule.maxEirp ∧
    r1.freqRange.startFreqKhz ≤ r2.freqRange.startFreqKhz ∧ r2.freqRange.endFreqKhz ≤ r1.freqRange.endFreqKhz ∧
    r2.freqRange.maxBandwidthKhz ≤ r1.freqRange.maxBandwidthKhz := by
  unfold ruleContains
  split_ifs with hflags
  · simp [hflags]
  all_goals
    simp only [false_iff, true_iff, not_ne_iff.1 hflags, true_and]
    omega

theorem ruleContains_refl (r : RegRule) : ruleContains r r = true := by
  simp [ruleContains_iff]

theorem ruleContains_trans (r1 r2 r3 : RegRule) (h : ruleContains r1 r2 = true) (h' : ruleContains r2 r3 = true) :
    ruleContains r1 r3 = true := by
  rw [ruleContains_iff] at *
  refine ⟨h.1.trans h'.1, ?_⟩
  omega

theorem countLoop_indep (l : List (Nat × Nat)) (old old' : RegRule) :
    (countLoop rd1 rd2 l old).1 = (countLoop rd1 rd2 l old').1 := by
  induction l generalizing old old' with
  | nil => rfl
  | cons v rest ih =>
    unfold countLoop
    dsimp only
    rw [ih _ (regRulesIntersect rd1 rd2 v.1 v.2 old')]
    rfl

theorem built_of_valid (hv : (x, y) ∈ l) (hvalid : isValidRegRule (overlap rd1 rd2 x y) = true) :
    ∃ old', regRulesIntersect rd1 rd2 x y old' ∈ built rd1 rd2 l old := by
  obtain ⟨pre, post, rfl⟩ := List.append_of_mem hv
  obtain ⟨old', _, -, hbuilt⟩ := @built_split rd1 rd2 x y pre post old hvalid
  exact ⟨old', by simp [hbuilt]⟩

/-- Rules that are valid intersections, among which every valid one is contained in one. -/
structure Intersection (rd1 rd2 : RegDomain) (regRules : List RegRule) : Prop where
  sound : ∀ r ∈ regRules, isValidRegRule r = true ∧ ∃ v ∈ pairs rd1 rd2, ∃ old, r = regRulesIntersect rd1 rd2 v.1 v.2 old
  complete : ∀ v ∈ pairs rd1 rd2, isValidRegRule (overlap rd1 rd2 v.1 v.2) = true →
    ∃ r ∈ regRules, ruleContains r (overlap rd1 rd2 v.1 v.2) = true

theorem buildLoop_intersection (old : RegRule) : Intersection rd1 rd2 (buildLoop rd1 rd2 (pairs rd1 rd2) old []) := by
  rw [buildLoop_eq]
  constructor
  · intro r hr
    obtain ⟨v, hv, old', -, rfl, hvalid⟩ := mem_built ((FirstMatch.mem_foldl_absorb hr).resolve_right List.not_mem_nil)
    exact ⟨hvalid, v, hv, old', rfl⟩
  · rintro ⟨x, y⟩ hv hvalid
    obtain ⟨old', hmem⟩ : ∃ old', _ ∈ built rd1 rd2 (pairs rd1 rd2) old := built_of_valid hv hvalid
    obtain ⟨r, hr, hc⟩ := FirstMatch.covered_foldl_absorb (l := []) ruleContains_trans ruleContains_refl (.inl hmem)
    exact ⟨r, hr, hc⟩

/-- **The intersection is valid and complete.**  There is one exactly when two rules have a valid one; its rules fit in the memory
    for those that were counted, and with no more of them than a domain may have it is a valid domain. -/
theorem intersect_complete (rd1 rd2 : RegDomain) (stack : RegRule) :
    (regdomIntersect rd1 rd2 stack = none ↔ ∀ v ∈ pairs rd1 rd2, isValidRegRule (overlap rd1 rd2 v.1 v.2) = false) ∧
      ∀ rd, regdomIntersect rd1 rd2 stack = some rd → Intersection rd1 rd2 rd.regRules ∧
        rd.regRules.length ≤ (countLoop rd1 rd2 (pairs rd1 rd2) stack).1 ∧
        (rd.regRules.length ≤ NL80211_MAX_SUPP_REG_RULES → isValidRd rd = true) := by
  have hcount : ∀ old, (countLoop rd1 rd2 (pairs rd1 rd2) old).1 = (built rd1 rd2 (pairs rd1 rd2) old).length :=
    fun old => (countLoop_eq (pairs rd1 rd2) old).1
  have hzero : (countLoop rd1 rd2 (pairs rd1 rd2) stack).1 = 0 ↔
      ∀ v ∈ pairs rd1 rd2, isValidRegRule (overlap rd1 rd2 v.1 v.2) = false := by
    rw [hcount, List.length_eq_zero_iff]
    constructor
    · intro hnil v hv
      rw [← Bool.not_eq_true]
      intro hvalid
      obtain ⟨_, hmem⟩ : ∃ old', _ ∈ built rd1 rd2 (pairs rd1 rd2) stack := built_of_valid hv hvalid
      rw [hnil] at hmem
      cases hmem
    · intro hnone
      apply List.eq_nil_iff_forall_not_mem.2
      intro r hr
      obtain ⟨v, hv, _, -, -, hvalid⟩ := mem_built hr
      simp [hnone v hv] at hvalid
  unfold regdomIntersect
  dsimp only
  split_ifs with h0
  · exact ⟨⟨fun _ => hzero.1 h0, fun _ => rfl⟩, nofun⟩
  · refine ⟨⟨nofun, fun h => absurd (hzero.2 h) h0⟩, ?_⟩
    rintro rd ⟨⟩
    have hrules : Intersection rd1 rd2 _ := buildLoop_intersection (countLoop rd1 rd2 (pairs rd1 rd2) stack).2
    refine ⟨hrules, ?_, ?_⟩
    · dsimp only
      rw [buildLoop_eq, countLoop_indep _ _ (countLoop rd1 rd2 (pairs rd1 rd2) stack).2, hcount]
      apply FirstMatch.length_foldl_absorb_le
    · intro hlen
      unfold isValidRd
      rw [if_neg, if_neg (Nat.not_lt.2 hlen)]
      · exact List.all_eq_true.2 fun r hr => (hrules.sound r hr).1
      · intro hnil
        apply h0
        apply hzero.2
        intro v hv
        rw [← Bool.not_eq_true]
        intro hvalid
        obtain ⟨r, hr, -⟩ := hrules.complete v hv hvalid
        rw [show buildLoop _ _ _ _ _ = [] from hnil] at hr
        cases hr

/-! ## Queries -/

theorem queryLoop_ok {l : List RegRule} {i k : Nat} {b : Bool} (h : queryLoop c bw l i b = .ok k) :
    ∃ j r, k = i + j ∧ l[j]? = some r ∧ fits c bw r = true := by
  induction l generalizing i b with
  | nil => cases h
  | cons rr rest ih =>
    unfold queryLoop at h
    dsimp only at h
    split_ifs at h with hcond
    · cases h
      exact ⟨0, rr, rfl, rfl, hcond.2⟩
    · obtain ⟨j, r, hk, hj, hf⟩ := ih h
      exact ⟨j + 1, r, by omega, hj, hf⟩

/-- The first rule that fits is found, when it or one before it is in the band. -/
theorem queryLoop_first {pre post : List RegRule} {r : RegRule} (hpre : ∀ t ∈ pre, fits c bw t = false)
    (hr : fits c bw r = true) : ∀ (i : Nat) (b : Bool),
      (b = true ∨ ∃ t ∈ pre ++ [r], freqInRuleBand t.freqRange c = true) →
      queryLoop c bw (pre ++ r :: post) i b = .ok (i + pre.length) := by
  induction pre with
  | nil =>
    intro i b hb
    have hband : (b || freqInRuleBand r.freqRange c) = true := by
      rcases hb with rfl | ⟨t, ht, hband⟩
      · rfl
      · rw [List.nil_append, List.mem_singleton] at ht
        rw [← ht, hband, Bool.or_true]
    rw [List.nil_append, queryLoop]
    rw [if_pos ⟨hband, hr⟩]
    rfl
  | cons t pre ih =>
    intro i b hb
    have ht : ¬((b || freqInRuleBand t.freqRange c) = true ∧ doesBwFitRange t.freqRange c bw = true) := by
      intro h
      have hf : fits c bw t = false := hpre t List.mem_cons_self
      have hf' : fits c bw t = true := h.2
      rw [hf] at hf'
      cases hf'
    rw [List.cons_append, queryLoop]
    rw [if_neg ht, ih (fun t' ht' => hpre t' (List.mem_cons_of_mem _ ht')), List.length_cons]
    · congr 1
      omega
    · rcases hb with rfl | ⟨t', ht', hband⟩
      · exact .inl rfl
      · rcases List.mem_cons.1 ht' with rfl | ht'
        · exact .inl (by rw [hband, Bool.or_true])
        · exact .inr ⟨t', ht', hband⟩

/-- The first rule of a domain that fits the channel. -/
def FirstFit (rd : RegDomain) (c bw x : Nat) : Prop :=
  x < rd.regRules.length ∧ fits c bw (rd.rule x) = true ∧ ∀ x' < x, fits c bw (rd.rule x') = false

def BandBefore (rd : RegDomain) (c x : Nat) : Prop := ∃ x' ≤ x, freqInRuleBand (rd.rule x').freqRange c = true

section Query

variable {x : Nat}

theorem rule_eq (h : x < rd.regRules.length) : rd.rule x = rd.regRules[x] := by
  simp [RegDomain.rule, List.getD, h]

theorem exists_firstFit (h : x < rd.regRules.length) (hf : fits c bw (rd.rule x) = true) :
    ∃ x', FirstFit rd c bw x' := by
  have hex : ∃ x, x < rd.regRules.length ∧ fits c bw (rd.rule x) = true := ⟨x, h, hf⟩
  obtain ⟨hlt, hfit⟩ := Nat.find_spec hex
  refine ⟨Nat.find hex, hlt, hfit, ?_⟩
  intro x' hx'
  rw [← Bool.not_eq_true]
  exact fun hf' => Nat.find_min hex hx' ⟨by omega, hf'⟩

theorem query_firstFit (h : FirstFit rd c bw x) (hb : BandBefore rd c x) : freqRegInfoRegd c rd bw = .ok x := by
  obtain ⟨hx, hf, hmin⟩ := h
  obtain ⟨x', hx', hband⟩ := hb
  have hsplit : rd.regRules = rd.regRules.take x ++ rd.rule x :: rd.regRules.drop (x + 1) := by
    rw [rule_eq hx, List.getElem_cons_drop hx, List.take_append_drop]
  have hlen : (rd.regRules.take x).length = x := by
    rw [List.length_take]
    omega
  unfold freqRegInfoRegd
  rw [hsplit, queryLoop_first ?_ hf 0 false ?_, hlen, Nat.zero_add]
  · intro t ht
    obtain ⟨j, hj, rfl⟩ := List.mem_take_iff_getElem.1 ht
    have hjx := hmin j (by omega)
    rw [rule_eq (by omega)] at hjx
    exact hjx
  · refine .inr ⟨rd.rule x', ?_, hband⟩
    by_cases hxx : x' = x
    · rw [hxx]
      exact List.mem_append.2 (.inr (List.mem_singleton.2 rfl))
    · refine List.mem_append.2 (.inl (List.mem_take_iff_getElem.2 ⟨x', by omega, ?_⟩))
      rw [rule_eq (by omega)]

end Query

/-! ## The rule that is found -/

/-- No pair of rules that comes after the first one that fits, and fits too, has an intersection that contains
    that of a pair before it: `add_rule` would put it there. -/
def Undisplaced (rd1 rd2 : RegDomain) (c bw x y : Nat) : Prop :=
  ∀ v w, v ∈ pairs rd1 rd2 → w ∈ pairs rd1 rd2 → Before v w → Before (x, y) w →
    isValidRegRule (overlap rd1 rd2 v.1 v.2) = true → isValidRegRule (overlap rd1 rd2 w.1 w.2) = true →
    fits c bw (rd1.rule w.1) = true → fits c bw (rd2.rule w.2) = true →
    ruleContains (overlap rd1 rd2 w.1 w.2) (overlap rd1 rd2 v.1 v.2) = false

/-- The first rules that fit are found, their ranges overlap in the band, and no other pair displaces them. -/
structure Comparable (rd1 rd2 : RegDomain) (c bw x y : Nat) : Prop where
  band1 : BandBefore rd1 c x
  band2 : BandBefore rd2 c y
  overlaps : (overlap rd1 rd2 x y).freqRange.startFreqKhz < (overlap rd1 rd2 x y).freqRange.endFreqKhz
  band : freqInRuleBand (overlap rd1 rd2 x y).freqRange c = true
  undisplaced : Undisplaced rd1 rd2 c bw x y

section Found

variable {x y : Nat}

theorem startFreq_ne_zero (hv : isValidRd rd = true) (hx : x < rd.regRules.length) :
    (rd.rule x).freqRange.startFreqKhz ≠ 0 := by
  unfold isValidRd at hv
  split_ifs at hv
  have hrule := List.all_eq_true.1 hv (rd.rule x) (by rw [rule_eq hx]; exact List.getElem_mem hx)
  unfold isValidRegRule at hrule
  dsimp only at hrule
  split_ifs at hrule with h0
  exact fun h => h0 (.inl h)

/-- The intersection of two ranges that overlap is a valid rule. -/
theorem isValid_overlap (hv : isValidRd rd1 = true) (hx : x < rd1.regRules.length)
    (h : (overlap rd1 rd2 x y).freqRange.startFreqKhz < (overlap rd1 rd2 x y).freqRange.endFreqKhz) :
    isValidRegRule (overlap rd1 rd2 x y) = true := by
  have h0 := startFreq_ne_zero hv hx
  have hstart : (rd1.rule x).freqRange.startFreqKhz ≤ (overlap rd1 rd2 x y).freqRange.startFreqKhz :=
    Nat.le_max_left _ _
  have hbw : (overlap rd1 rd2 x y).freqRange.maxBandwidthKhz ≤
      subU32 (overlap rd1 rd2 x y).freqRange.endFreqKhz (overlap rd1 rd2 x y).freqRange.startFreqKhz := by
    have hcap : ∀ a b : Nat, (if a < b then a else b) ≤ a := by
      intro a b
      split_ifs
      · exact Nat.le_refl a
      · omega
    exact hcap _ _
  unfold isValidRegRule
  dsimp only
  rw [if_neg (by omega), if_neg (by omega), if_neg (by omega)]

/-- A pair that fits does not come before the first rules that fit. -/
theorem not_before_firstFit (h1 : FirstFit rd1 c bw x) (h2 : FirstFit rd2 c bw y) {v : Nat × Nat}
    (hv : Before v (x, y)) : fits c bw (overlap rd1 rd2 v.1 v.2) = false := by
  rw [← Bool.not_eq_true, fits_overlap]
  rintro ⟨hf1, hf2⟩
  rcases hv with hlt | ⟨heq, hlt⟩
  · rw [h1.2.2 _ hlt] at hf1
    cases hf1
  · rw [h2.2.2 _ hlt] at hf2
    cases hf2

/-- **The rule that is found in the intersection** is that of the first rules that fit, with the `psd` that was
    there before. -/
theorem query_intersect (stack : RegRule) (hv : isValidRd rd1 = true) (h1 : FirstFit rd1 c bw x) (h2 : FirstFit rd2 c bw y)
    (hc : Comparable rd1 rd2 c bw x y) : ∃ rd i old, regdomIntersect rd1 rd2 stack = some rd ∧
      freqRegInfoRegd c rd bw = .ok i ∧ rd.rule i = regRulesIntersect rd1 rd2 x y old ∧ old.psd = stack.psd := by
  have hvalid := isValid_overlap hv h1.1 hc.overlaps
  have hfit : fits c bw (overlap rd1 rd2 x y) = true := fits_overlap.2 ⟨h1.2.1, h2.2.1⟩
  obtain ⟨pre, post, hsplit⟩ := List.append_of_mem (mem_pairs.2 ⟨h1.1, h2.1⟩ : (x, y) ∈ pairs rd1 rd2)
  have hsorted : (pre ++ (x, y) :: post).Pairwise Before := hsplit ▸ pairs_pairwise
  obtain ⟨-, hpost, hcross⟩ := List.pairwise_append.1 hsorted
  obtain ⟨hafter, hpostSorted⟩ := List.pairwise_cons.1 hpost
  have hmem : ∀ v, v ∈ pre ∨ v = (x, y) ∨ v ∈ post → v ∈ pairs rd1 rd2 := by
    intro v hv
    rw [hsplit, List.mem_append, List.mem_cons]
    exact hv
  obtain ⟨hcount, hpsd⟩ : (countLoop rd1 rd2 (pairs rd1 rd2) stack).1 = (built rd1 rd2 (pairs rd1 rd2) stack).length ∧
      (countLoop rd1 rd2 (pairs rd1 rd2) stack).2.psd = stack.psd := countLoop_eq (pairs rd1 rd2) stack
  obtain ⟨n, hn⟩ : ∃ n, n = countLoop rd1 rd2 (pairs rd1 rd2) stack := ⟨_, rfl⟩
  rw [← hn] at hcount hpsd
  have hpair : ∀ o, ∃ old' old'', old'.psd = o.psd ∧ built rd1 rd2 (pairs rd1 rd2) o =
      built rd1 rd2 pre o ++ regRulesIntersect rd1 rd2 x y old' :: built rd1 rd2 post old'' := by
    intro o
    rw [hsplit]
    exact built_split hvalid
  obtain ⟨old, old', hold, hbuilt⟩ := hpair n.2
  obtain ⟨_, _, -, hbuilt'⟩ := hpair stack
  have hfit' : fits c bw (regRulesIntersect rd1 rd2 x y old) = true := hfit
  have hmono : ∀ r r', ruleContains r r' = true → fits c bw r' = true → fits c bw r = true :=
    fun _ _ => fits_of_contains
  -- the rule is found in the list
  have hfind : (buildLoop rd1 rd2 (pairs rd1 rd2) n.2 []).find? (fits c bw) =
      some (regRulesIntersect rd1 rd2 x y old) := by
    rw [buildLoop_eq, hbuilt]
    refine FirstMatch.find?_foldl_absorb (p := fits c bw) hmono ?_ hfit' ?_ ?_
    · intro r hr
      obtain ⟨v, hvm, _, -, rfl, -⟩ := mem_built hr
      exact not_before_firstFit h1 h2 (hcross v hvm (x, y) List.mem_cons_self)
    · intro z hz hfz r hr
      obtain ⟨w, hwm, _, -, rfl, hvw⟩ := mem_built hz
      obtain ⟨hw1, hw2⟩ := fits_overlap.1 hfz
      rcases List.mem_append.1 hr with hr | hr
      · obtain ⟨v, hvm, _, -, rfl, hvv⟩ := mem_built hr
        exact hc.undisplaced v w (hmem v (.inl hvm)) (hmem w (.inr (.inr hwm)))
          (hcross v hvm w (List.mem_cons_of_mem _ hwm)) (hafter w hwm) hvv hvw hw1 hw2
      · rw [List.mem_singleton.1 hr]
        exact hc.undisplaced (x, y) w (hmem _ (.inr (.inl rfl))) (hmem w (.inr (.inr hwm))) (hafter w hwm)
          (hafter w hwm) hvalid hvw hw1 hw2
    · refine built_pairwise ?_
      refine hpostSorted.imp_of_mem ?_
      intro v w hvm hwm hvw old old' hvv hww hfw
      obtain ⟨hw1, hw2⟩ := fits_overlap.1 hfw
      exact hc.undisplaced v w (hmem v (.inr (.inr hvm))) (hmem w (.inr (.inr hwm))) hvw (hafter w hwm) hvv hww hw1 hw2
  obtain ⟨-, before, after, hlist, hbefore⟩ := List.find?_eq_some_iff_append.1 hfind
  have hn0 : n.1 ≠ 0 := by
    rw [hcount, hbuilt']
    simp
  have hmiss : ∀ t ∈ before, fits c bw t = false := by
    intro t ht
    simpa using hbefore t ht
  refine ⟨{ alpha2 := (0x39, 0x38), dfsRegion := regIntersectDfsRegion rd1.dfsRegion rd2.dfsRegion,
            regRules := buildLoop rd1 rd2 (pairs rd1 rd2) n.2 [] }, before.length, old, ?_, ?_, ?_, hold.trans hpsd⟩
  · unfold regdomIntersect
    rw [← hn]
    exact if_neg hn0
  · unfold freqRegInfoRegd
    dsimp only
    rw [hlist, queryLoop_first hmiss hfit', Nat.zero_add]
    exact .inr ⟨_, List.mem_append.2 (.inr (List.mem_singleton.2 rfl)), hc.band⟩
  · unfold RegDomain.rule
    dsimp only
    rw [hlist]
    simp [List.getD]

end Found

/-! ## What it grants -/

/-- A rule grants no more than another one, whose maximum bandwidth is given; every flag of the other but
    `AUTO_BW`, which grants, is there. -/
structure NoWider (r r' : RegRule) (bandwidth : Nat) : Prop where
  start : r'.freqRange.startFreqKhz ≤ r.freqRange.startFreqKhz
  finish : r.freqRange.endFreqKhz ≤ r'.freqRange.endFreqKhz
  bandwidth : r.freqRange.maxBandwidthKhz ≤ bandwidth
  eirp : r.powerRule.maxEirp ≤ r'.powerRule.maxEirp
  gain : r.powerRule.maxAntennaGain ≤ r'.powerRule.maxAntennaGain
  psd : r'.flags &&& NL80211_RRF_PSD ≠ 0 → r.psd ≤ r'.psd
  cac : r'.dfsCacMs ≤ r.dfsCacMs
  flags : r'.flags &&& ~~~NL80211_RRF_AUTO_BW &&& ~~~r.flags = 0

/-- When a rule is found in the intersection, rules that grant no less are found in both domains. -/
def GrantsNoMore (rd1 rd2 : RegDomain) (c bw : Nat) (stack : RegRule) : Prop :=
  ∀ rd i, regdomIntersect rd1 rd2 stack = some rd → freqRegInfoRegd c rd bw = .ok i →
    ∃ x y, freqRegInfoRegd c rd1 bw = .ok x ∧ freqRegInfoRegd c rd2 bw = .ok y ∧
      NoWider (rd.rule i) (rd1.rule x) (maxBandwidth rd1 x) ∧ NoWider (rd.rule i) (rd2.rule y) (maxBandwidth rd2 y)

/-- A limit of the power spectral density, where there is one, is not below what was on the stack. -/
def PsdKept (r : RegRule) (stack : RegRule) : Prop := r.flags &&& NL80211_RRF_PSD ≠ 0 → stack.psd ≤ r.psd

section Grants

variable {x y i : Nat} {old stack : RegRule}

theorem flags_intersect (a b auto : BitVec 32) (p : Prop) [Decidable p] :
    a &&& ~~~auto &&& ~~~(if p then a ||| b ||| auto else (a ||| b) &&& ~~~auto) = 0 := by
  apply BitVec.eq_of_getLsbD_eq
  intro i hi
  have h0 : (0 : BitVec 32).getLsbD i = false := by simp
  rw [h0]
  split_ifs
  all_goals
    simp only [BitVec.getLsbD_and, BitVec.getLsbD_or, BitVec.getLsbD_not, hi, decide_true,
      Bool.true_and]
    cases a.getLsbD i <;> cases b.getLsbD i <;> cases auto.getLsbD i <;> rfl

theorem noWider_left (hpsd : PsdKept (rd1.rule x) old) :
    NoWider (regRulesIntersect rd1 rd2 x y old) (rd1.rule x) (maxBandwidth rd1 x) where
  start := Nat.le_max_left _ _
  finish := Nat.min_le_left _ _
  bandwidth := by
    show (if _ then _ else _) ≤ _
    split_ifs with h
    · exact Nat.le_trans (Nat.le_of_lt h) (Nat.min_le_left _ _)
    · exact Nat.min_le_left _ _
  eirp := Nat.min_le_left _ _
  gain := Nat.min_le_left _ _
  psd := hpsd
  cac := Nat.le_max_left _ _
  flags := flags_intersect _ _ _ _

theorem noWider_right (hpsd : PsdKept (rd2.rule y) old) :
    NoWider (regRulesIntersect rd1 rd2 x y old) (rd2.rule y) (maxBandwidth rd2 y) where
  start := Nat.le_max_right _ _
  finish := Nat.min_le_right _ _
  bandwidth := by
    show (if _ then _ else _) ≤ _
    split_ifs with h
    · exact Nat.le_trans (Nat.le_of_lt h) (Nat.min_le_right _ _)
    · exact Nat.min_le_right _ _
  eirp := Nat.min_le_right _ _
  gain := Nat.min_le_right _ _
  psd := hpsd
  cac := Nat.le_max_right _ _
  flags := by
    have h := flags_intersect (rd2.rule y).flags (rd1.rule x).flags NL80211_RRF_AUTO_BW
      ((rd1.rule x).flags &&& NL80211_RRF_AUTO_BW ≠ 0 ∧ (rd2.rule y).flags &&& NL80211_RRF_AUTO_BW ≠ 0)
    rw [BitVec.or_comm (rd2.rule y).flags] at h
    exact h

theorem fits_of_query (hrd : regdomIntersect rd1 rd2 stack = some rd) (hi : freqRegInfoRegd c rd bw = .ok i) :
    (∃ x, FirstFit rd1 c bw x) ∧ ∃ y, FirstFit rd2 c bw y := by
  unfold freqRegInfoRegd at hi
  obtain ⟨j, r, -, hj, hf⟩ := queryLoop_ok hi
  unfold regdomIntersect at hrd
  dsimp only at hrd
  split_ifs at hrd with hn
  cases hrd
  have hr := List.mem_of_getElem? hj
  rw [buildLoop_eq] at hr
  rcases FirstMatch.mem_foldl_absorb hr with hr | hr
  · obtain ⟨v, hv, _, -, rfl, -⟩ := mem_built hr
    obtain ⟨hf1, hf2⟩ := fits_overlap.1 hf
    obtain ⟨hv1, hv2⟩ := mem_pairs.1 hv
    exact ⟨exists_firstFit hv1 hf1, exists_firstFit hv2 hf2⟩
  · cases hr

end Grants

/-! ## Domains -/

def band24 (startFreqKhz endFreqKhz maxBandwidthKhz maxEirp : Nat) : RegRule :=
  { RegRule.zero with
    freqRange := ⟨startFreqKhz, endFreqKhz, maxBandwidthKhz⟩
    powerRule := ⟨0, maxEirp⟩ }

def domain (regRules : List RegRule) : RegDomain where
  alpha2 := (0x30, 0x30)
  dfsRegion := 0
  regRules := regRules

/-- Two narrow rules before a wide one that has more power than the second. -/
def layered : RegDomain :=
  domain [band24 2402000 2420000 18000 2000, band24 2400000 2482000 10000 1000, band24 2402000 2482000 40000 2000]

def wide : RegDomain := domain [band24 2400000 2500000 80000 3000]

/-- A rule with a limit of the power spectral density. -/
def psdLimited : RegDomain :=
  domain [{ band24 2400000 2500000 80000 3000 with flags := NL80211_RRF_PSD, psd := 5 }]

end Wireless.Reg
