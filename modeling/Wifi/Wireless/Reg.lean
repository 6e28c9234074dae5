import Wifi.Linux.Elements

/-!
# Regulatory domains (`<net/regulatory.h>`)

The header is not in the tree.  Its types are modelled by the documented ones, with frequencies
and bandwidths in kHz.

* `FreqRange`, `PowerRule`, `WmmAc`, `RegRule` — one rule.
* `RegDomain` — `struct ieee80211_regdomain`, without the parts RCU needs.
-/

namespace Wireless.Reg

/-- `struct ieee80211_freq_range`: three `u32`. -/
structure FreqRange where
  startFreqKhz : Nat
  endFreqKhz : Nat
  maxBandwidthKhz : Nat
  deriving DecidableEq

/-- `struct ieee80211_power_rule`: two `u32`. -/
structure PowerRule where
  maxAntennaGain : Nat
  maxEirp : Nat
  deriving DecidableEq

/-- `struct ieee80211_wmm_ac`: three `u16` and a `u8`. -/
structure WmmAc where
  cwMin : Nat
  cwMax : Nat
  cot : Nat
  aifsn : Nat
  deriving DecidableEq

/-- `struct ieee80211_wmm_rule`: an entry for each of the four access categories. -/
structure WmmRule where
  client : List WmmAc
  ap : List WmmAc
  deriving DecidableEq

/-- `struct ieee80211_reg_rule`. -/
structure RegRule where
  freqRange : FreqRange
  powerRule : PowerRule
  wmmRule : WmmRule
  flags : BitVec 32
  dfsCacMs : Nat
  hasWmm : Bool
  psd : Int
  deriving DecidableEq

def RegRule.zero : RegRule where
  freqRange := ⟨0, 0, 0⟩
  powerRule := ⟨0, 0⟩
  wmmRule := ⟨List.replicate 4 ⟨0, 0, 0, 0⟩, List.replicate 4 ⟨0, 0, 0, 0⟩⟩
  flags := 0
  dfsCacMs := 0
  hasWmm := false
  psd := 0

/-- `struct ieee80211_regdomain`. -/
structure RegDomain where
  alpha2 : Byte × Byte
  dfsRegion : Byte
  regRules : List RegRule
  deriving DecidableEq

/-! ## `enum nl80211_reg_rule_flags` -/

def NL80211_RRF_NO_OFDM : BitVec 32 := 1 <<< 0
def NL80211_RRF_NO_OUTDOOR : BitVec 32 := 1 <<< 3
def NL80211_RRF_DFS : BitVec 32 := 1 <<< 4
def NL80211_RRF_NO_IR : BitVec 32 := 1 <<< 7
def NL80211_RRF_AUTO_BW : BitVec 32 := 1 <<< 11
def NL80211_RRF_NO_HT40MINUS : BitVec 32 := 1 <<< 13
def NL80211_RRF_NO_HT40PLUS : BitVec 32 := 1 <<< 14
def NL80211_RRF_NO_80MHZ : BitVec 32 := 1 <<< 15
def NL80211_RRF_NO_160MHZ : BitVec 32 := 1 <<< 16
def NL80211_RRF_NO_320MHZ : BitVec 32 := 1 <<< 18
def NL80211_RRF_PSD : BitVec 32 := 1 <<< 20

end Wireless.Reg

/-!
## Intersection of regulatory domains (`wireless/reg.c`)

Rules are named by their index, as the source names them by their address in `reg_rules`.

* `isValidRd` — `is_valid_rd`, with `is_valid_reg_rule`.
* `regGetMaxBandwidth` — `reg_get_max_bandwidth`, with the walks of `reg_get_max_bandwidth_from_range`.
* `regRulesIntersect`, `ruleContains`, `addRule`, `regdomIntersect` — the functions of the same names.
* `freqRegInfoRegd` — `freq_reg_info_regd`, with `freq_in_rule_band` and `cfg80211_does_bw_fit_range`.
-/

namespace Wireless.Reg

def NL80211_MAX_SUPP_REG_RULES : Nat := 128

def KHZ_PER_GHZ : Nat := 1000000

def mhzToKhz (freq : Nat) : Nat := freq * 1000

/-- Two `u32`. -/
def addU32 (a b : Nat) : Nat := (a + b) % 4294967296
def subU32 (a b : Nat) : Nat := (a + 4294967296 - b) % 4294967296

/-- `abs` of the difference of two `u32`, which it takes for an `int`. -/
def absDiff (a b : Nat) : Nat := min (subU32 a b) (4294967296 - subU32 a b)

def RegDomain.rule (rd : RegDomain) (x : Nat) : RegRule := rd.regRules.getD x .zero

/-! ## Valid rules -/

def isValidRegRule (rule : RegRule) : Bool :=
  let fr := rule.freqRange
  if fr.startFreqKhz = 0 ∨ fr.endFreqKhz = 0 then false
  else if fr.endFreqKhz < fr.startFreqKhz then false
  else if fr.endFreqKhz ≤ fr.startFreqKhz ∨ subU32 fr.endFreqKhz fr.startFreqKhz < fr.maxBandwidthKhz then false
  else true

def isValidRd (rd : RegDomain) : Bool :=
  if rd.regRules = [] then false
  else if NL80211_MAX_SUPP_REG_RULES < rd.regRules.length then false
  else rd.regRules.all isValidRegRule

/-! ## Bandwidths -/

/-- The walk down from a rule over the ranges that touch. -/
def walkDown (rd : RegDomain) : Nat → FreqRange → FreqRange
  | 0, fr => fr
  | no + 1, fr =>
    let tmp := (rd.rule no).freqRange
    if tmp.endFreqKhz < fr.startFreqKhz then fr else walkDown rd no tmp

def walkUp : List RegRule → FreqRange → FreqRange
  | [], fr => fr
  | tmp :: rest, fr => if fr.endFreqKhz < tmp.freqRange.startFreqKhz then fr else walkUp rest tmp.freqRange

def regGetMaxBandwidthFromRange (rd : RegDomain) (idx : Nat) : Nat :=
  if rd.regRules.length ≤ idx then 0
  else
    let fr := (rd.rule idx).freqRange
    subU32 (walkUp (rd.regRules.drop (idx + 1)) fr).endFreqKhz (walkDown rd idx fr).startFreqKhz

def regGetMaxBandwidth (rd : RegDomain) (idx : Nat) : Nat :=
  let flags := (rd.rule idx).flags
  let bw := regGetMaxBandwidthFromRange rd idx
  let bw := if flags &&& NL80211_RRF_NO_320MHZ ≠ 0 then min bw (mhzToKhz 160) else bw
  let bw := if flags &&& NL80211_RRF_NO_160MHZ ≠ 0 then min bw (mhzToKhz 80) else bw
  let bw := if flags &&& NL80211_RRF_NO_80MHZ ≠ 0 then min bw (mhzToKhz 40) else bw
  if flags &&& NL80211_RRF_NO_HT40MINUS ≠ 0 ∧ flags &&& NL80211_RRF_NO_HT40PLUS ≠ 0 then min bw (mhzToKhz 20) else bw

/-- The maximum bandwidth of a rule: its own, or what is calculated for it when its flags ask for that. -/
def maxBandwidth (rd : RegDomain) (idx : Nat) : Nat :=
  if (rd.rule idx).flags &&& NL80211_RRF_AUTO_BW ≠ 0 then regGetMaxBandwidth rd idx
  else (rd.rule idx).freqRange.maxBandwidthKhz

/-! ## The intersection of two rules -/

def regWmmRulesIntersect (a b : WmmAc) : WmmAc where
  cwMin := max a.cwMin b.cwMin
  cwMax := max a.cwMax b.cwMax
  cot := min a.cot b.cot
  aifsn := max a.aifsn b.aifsn

/-- The `wmm_rule` of `reg_rules_intersect`; it keeps what it held when neither rule has one. -/
def wmmIntersect (rule1 rule2 : RegRule) (old : WmmRule) : WmmRule :=
  if rule1.hasWmm = true ∧ rule2.hasWmm = true then
    { client := List.zipWith regWmmRulesIntersect rule1.wmmRule.client rule2.wmmRule.client
      ap := List.zipWith regWmmRulesIntersect rule1.wmmRule.ap rule2.wmmRule.ap }
  else if rule1.hasWmm then rule1.wmmRule
  else if rule2.hasWmm then rule2.wmmRule
  else old

/-- `reg_rules_intersect`: what it leaves in `intersected_rule`, which held `old`.  Nothing writes `psd`. -/
def regRulesIntersect (rd1 rd2 : RegDomain) (x y : Nat) (old : RegRule) : RegRule :=
  let rule1 := rd1.rule x
  let rule2 := rd2.rule y
  let startFreqKhz := max rule1.freqRange.startFreqKhz rule2.freqRange.startFreqKhz
  let endFreqKhz := min rule1.freqRange.endFreqKhz rule2.freqRange.endFreqKhz
  let maxBandwidthKhz := min (maxBandwidth rd1 x) (maxBandwidth rd2 y)
  let freqDiff := subU32 endFreqKhz startFreqKhz
  let flags := rule1.flags ||| rule2.flags
  { freqRange :=
      { startFreqKhz := startFreqKhz
        endFreqKhz := endFreqKhz
        maxBandwidthKhz := if freqDiff < maxBandwidthKhz then freqDiff else maxBandwidthKhz }
    powerRule :=
      { maxAntennaGain := min rule1.powerRule.maxAntennaGain rule2.powerRule.maxAntennaGain
        maxEirp := min rule1.powerRule.maxEirp rule2.powerRule.maxEirp }
    wmmRule := wmmIntersect rule1 rule2 old.wmmRule
    flags :=
      -- In other case remove AUTO_BW flag while we calculate maximum bandwidth correctly
      if rule1.flags &&& NL80211_RRF_AUTO_BW ≠ 0 ∧ rule2.flags &&& NL80211_RRF_AUTO_BW ≠ 0 then
        flags ||| NL80211_RRF_AUTO_BW
      else flags &&& ~~~NL80211_RRF_AUTO_BW
    dfsCacMs := max rule1.dfsCacMs rule2.dfsCacMs
    hasWmm := rule1.hasWmm || rule2.hasWmm
    psd := old.psd }

/-! ## The intersection of two domains -/

def ruleContains (r1 r2 : RegRule) : Bool :=
  -- for simplicity, currently consider only same flags
  if r1.flags ≠ r2.flags then false
  else if r2.powerRule.maxAntennaGain < r1.powerRule.maxAntennaGain ∨ r2.powerRule.maxEirp < r1.powerRule.maxEirp then
    false
  else if r2.freqRange.startFreqKhz < r1.freqRange.startFreqKhz ∨ r1.freqRange.endFreqKhz < r2.freqRange.endFreqKhz then
    false
  else if r1.freqRange.maxBandwidthKhz < r2.freqRange.maxBandwidthKhz then false
  else true

def addRule (rule : RegRule) : List RegRule → List RegRule
  | [] => [rule]
  | tmpRule :: rest =>
    -- rule is already contained - do nothing
    if ruleContains tmpRule rule then tmpRule :: rest
    -- extend rule if possible
    else if ruleContains rule tmpRule then rule :: rest
    else tmpRule :: addRule rule rest

/-- The pairs of rules, in the order of the loops of `regdom_intersect`. -/
def pairs (rd1 rd2 : RegDomain) : List (Nat × Nat) :=
  (List.range rd1.regRules.length).flatMap fun x => (List.range rd2.regRules.length).map fun y => (x, y)

/-- The loops that count the rules; `intersected_rule` goes from one round to the next. -/
def countLoop (rd1 rd2 : RegDomain) : List (Nat × Nat) → RegRule → Nat × RegRule
  | [], intersectedRule => (0, intersectedRule)
  | (x, y) :: rest, intersectedRule =>
    let intersectedRule := regRulesIntersect rd1 rd2 x y intersectedRule
    let n := countLoop rd1 rd2 rest intersectedRule
    (if isValidRegRule intersectedRule then n.1 + 1 else n.1, n.2)

def buildLoop (rd1 rd2 : RegDomain) : List (Nat × Nat) → RegRule → List RegRule → List RegRule
  | [], _, regRules => regRules
  | (x, y) :: rest, intersectedRule, regRules =>
    let intersectedRule := regRulesIntersect rd1 rd2 x y intersectedRule
    buildLoop rd1 rd2 rest intersectedRule
      (if isValidRegRule intersectedRule then addRule intersectedRule regRules else regRules)

def regIntersectDfsRegion (dfsRegion1 dfsRegion2 : Byte) : Byte :=
  if dfsRegion1 ≠ dfsRegion2 then 0 else dfsRegion1

/-- `regdom_intersect`, for two domains and with memory for the rules; `stack` is what the variable
    `intersected_rule` holds before anything is written to it. -/
def regdomIntersect (rd1 rd2 : RegDomain) (stack : RegRule) : Option RegDomain :=
  let n := countLoop rd1 rd2 (pairs rd1 rd2) stack
  if n.1 = 0 then none
  else
    some
      { alpha2 := (0x39, 0x38)
        dfsRegion := regIntersectDfsRegion rd1.dfsRegion rd2.dfsRegion
        regRules := buildLoop rd1 rd2 (pairs rd1 rd2) n.2 [] }

/-! ## Queries -/

def freqInRuleBand (fr : FreqRange) (freqKhz : Nat) : Bool :=
  let limit := if 45 * KHZ_PER_GHZ < freqKhz then 20 * KHZ_PER_GHZ else 2 * KHZ_PER_GHZ
  decide (absDiff freqKhz fr.startFreqKhz ≤ limit) || decide (absDiff freqKhz fr.endFreqKhz ≤ limit)

/-- `cfg80211_does_bw_fit_range` -/
def doesBwFitRange (fr : FreqRange) (centerFreqKhz bwKhz : Nat) : Bool :=
  decide (fr.startFreqKhz ≤ subU32 centerFreqKhz (bwKhz / 2) ∧ addU32 centerFreqKhz (bwKhz / 2) ≤ fr.endFreqKhz)

/-- `-ERANGE`, `-EINVAL` -/
inductive QueryError where
  | erange
  | einval
  deriving DecidableEq, Repr

/-- The loop of `freq_reg_info_regd` over the rules from an index on. -/
def queryLoop (centerFreq bw : Nat) : List RegRule → Nat → Bool → Except QueryError Nat
  | [], _, bandRuleFound => .error (if bandRuleFound then .einval else .erange)
  | rr :: rest, i, bandRuleFound =>
    let bandRuleFound := bandRuleFound || freqInRuleBand rr.freqRange centerFreq
    if bandRuleFound = true ∧ doesBwFitRange rr.freqRange centerFreq bw = true then .ok i
    else queryLoop centerFreq bw rest (i + 1) bandRuleFound

/-- `freq_reg_info_regd`: the index of the rule. -/
def freqRegInfoRegd (centerFreq : Nat) (regd : RegDomain) (bw : Nat) : Except QueryError Nat :=
  queryLoop centerFreq bw regd.regRules 0 false

end Wireless.Reg
