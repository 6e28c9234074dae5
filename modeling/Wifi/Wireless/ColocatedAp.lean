import Mathlib.Data.List.Nodup
import Wifi.Wireless.IterRnr

/-!
# Colocated access points (`linux/net/wireless/scan.c`)

* `cfg80211ParseApInfo`, `cfg80211ParseColocatedApIter` — an entry from a TBTT info; `cfg80211ParseColocatedAp` — the entries of a frame.
* `Accounted` — what was allocated is in the list, or was freed; the callback keeps it.
* `ColocatedRight` — what should hold of the entries of a frame.
* `rnr_right` — it does, and iterations over reports are right.
-/

namespace Wireless.Rnr

open Delimited

def IEEE80211_MAX_SSID_LEN : Nat := 32

/-- `IEEE80211_RNR_TBTT_PARAMS_PSD_RESERVED` -/
def PSD_RESERVED : Byte := 0x80

/-- **`struct cfg80211_colocated_ap`** -/
structure ColocatedAp where
  bssid : List Byte
  ssid : List Byte
  shortSsid : BitVec 32
  centerFreq : Nat
  unsolicitedProbe : Bool
  octRecommended : Bool
  sameSsid : Bool
  multiBss : Bool
  transmittedBssid : Bool
  colocatedEss : Bool
  shortSsidValid : Bool
  psd20 : Byte
  deriving DecidableEq

/-- `kzalloc` -/
def ColocatedAp.zero : ColocatedAp :=
  ⟨List.replicate 6 0, [], 0, 0, false, false, false, false, false, false, false, 0⟩

/-- `enum nl80211_band`, as far as operating classes give one. -/
inductive Band where
  | ghz2
  | ghz5
  | ghz6
  | ghz60
  deriving DecidableEq

def ieee80211OperatingClassToBand (operatingClass : Nat) : Option Band :=
  if operatingClass = 112 ∨ (115 ≤ operatingClass ∧ operatingClass ≤ 127) ∨ (128 ≤ operatingClass ∧ operatingClass ≤ 130) then some .ghz5
  else if (131 ≤ operatingClass ∧ operatingClass ≤ 135) ∨ operatingClass = 137 then some .ghz6
  else if 81 ≤ operatingClass ∧ operatingClass ≤ 84 then some .ghz2
  else if operatingClass = 180 then some .ghz60
  else none

/-- `ieee80211_channel_to_freq_khz`, of a channel number in a byte -/
def ieee80211ChannelToFreqKhz (chan : Nat) (band : Band) : Nat :=
  if chan = 0 then 0
  else
    match band with
    | .ghz2 => if chan = 14 then 2484000 else if chan < 14 then (2407 + chan * 5) * 1000 else 0
    | .ghz5 => if 182 ≤ chan ∧ chan ≤ 196 then (4000 + chan * 5) * 1000 else (5000 + chan * 5) * 1000
    | .ghz6 => if chan = 2 then 5935000 else if chan ≤ 233 then (5950 + chan * 5) * 1000 else 0
    | .ghz60 => if chan < 7 then (56160 + chan * 2160) * 1000 else 0

def isValidEtherAddr (addr : List Byte) : Bool := (addr.getD 0 0).getLsbD 0 = false ∧ addr.any (· ≠ 0)

/-- `get_unaligned_le32` -/
def le32 (b : List Byte) : BitVec 32 := b.getD 3 0 ++ b.getD 2 0 ++ b.getD 1 0 ++ b.getD 0 0

/-- `cfg80211_parse_bss_param`: the entry, and whether the AP is colocated. -/
def cfg80211ParseBssParam (data : Byte) (ap : ColocatedAp) : ColocatedAp × Bool :=
  ({ ap with
    octRecommended := data.getLsbD 0
    sameSsid := data.getLsbD 1
    multiBss := data.getLsbD 2
    transmittedBssid := data.getLsbD 3
    unsolicitedProbe := data.getLsbD 5
    colocatedEss := data.getLsbD 4 }, data.getLsbD 6)

/-- `cfg80211_parse_ap_info`: `none` for `-EINVAL`. -/
def cfg80211ParseApInfo (entry : ColocatedAp) (pos : List Byte) (length : Nat) (ssidElem : Element) (sSsidTmp : BitVec 32) :
    Option ColocatedAp :=
  -- `struct ieee80211_tbtt_info_7_8_9` has 9 bytes, the other one has a short SSID before the parameters
  let long := 9 < length
  let entry := { entry with psd20 := PSD_RESERVED, bssid := (pos.drop 1).take 6 }
  let entry := if long then { entry with shortSsid := le32 (pos.drop 7), shortSsidValid := true } else entry
  let bssParams := if long then pos.getD 11 0 else pos.getD 7 0
  if long ∧ 16 ≤ length ∧ (pos.getD 15 0).getLsbD 5 = true then none
  else
    let entry :=
      if long then if 13 ≤ length then { entry with psd20 := pos.getD 12 0 } else entry
      else if length = 9 then { entry with psd20 := pos.getD 8 0 } else entry
    if isValidEtherAddr entry.bssid = false then none
    else
      let r := cfg80211ParseBssParam bssParams entry
      if r.2 = false then none
      else if r.1.sameSsid = false then some r.1
      else some { r.1 with shortSsid := sSsidTmp, shortSsidValid := true, ssid := ssidElem.data }

/-- **`struct colocated_ap_data`**: allocated entries are numbered; `allocated` and `freed` are what was asked of the allocator. -/
structure ColocatedApData where
  apList : List (Nat × ColocatedAp)
  nColoc : Nat
  asked : Nat
  allocated : List Nat
  freed : List Nat

def ColocatedApData.start : ColocatedApData := ⟨[], 0, 0, [], []⟩

/-- `cfg80211_parse_colocated_ap_iter`; `alloc` says which allocations succeed. -/
def cfg80211ParseColocatedApIter (alloc : Nat → Bool) (ssidElem : Element) (sSsidTmp : BitVec 32) : Iter ColocatedApData := fun data t =>
  if t.type ≠ 0 then (.continue, data)
  else
    match ieee80211OperatingClassToBand t.info.opClass.toNat with
    | none => (.continue, data)
    | some band =>
      if band ≠ .ghz6 ∨ ¬ (t.length = 8 ∨ t.length = 9 ∨ 12 ≤ t.length) then (.continue, data)
      else if alloc data.asked = false then (.error, { data with asked := data.asked + 1 })
      else
        let data := { data with asked := data.asked + 1, allocated := data.allocated ++ [data.asked] }
        let entry := { ColocatedAp.zero with centerFreq := ieee80211ChannelToFreqKhz t.info.channel.toNat band / 1000 }
        match cfg80211ParseApInfo entry t.tbttInfo t.length ssidElem sSsidTmp with
        | some entry => (.continue, { data with nColoc := data.nColoc + 1, apList := data.apList ++ [(data.asked - 1, entry)] })
        | none => (.continue, { data with freed := data.freed ++ [data.asked - 1] })

/-- `cfg80211_calc_short_ssid`: `none` for `-EINVAL`. -/
def cfg80211CalcShortSsid (api : ElementApi) (crc32Le : BitVec 32 → List Byte → BitVec 32) (ies : List Byte) :
    Option (Element × BitVec 32) :=
  match (api.forEachElement ies).find? fun e => e.id = WLAN_EID_SSID with
  | none => none
  | some elem => if IEEE80211_MAX_SSID_LEN < elem.datalen then none else some (elem, ~~~ crc32Le (BitVec.allOnes 32) elem.data)

/-- What a call gives: the number, the list, and what became of the entries. -/
structure Colocated where
  count : Nat
  list : List (Nat × ColocatedAp)
  data : ColocatedApData

/-- **`cfg80211_parse_colocated_ap`**; `none` if the turns do not suffice. -/
def cfg80211ParseColocatedAp (api : ElementApi) (crc32Le : BitVec 32 → List Byte → BitVec 32) (alloc : Nat → Bool) (fuel : Nat)
    (ies : List Byte) (list : List (Nat × ColocatedAp)) : Option Colocated :=
  match cfg80211CalcShortSsid api crc32Le ies with
  | none => some ⟨0, list, .start⟩
  | some (ssidElem, sSsidTmp) =>
    (cfg80211IterRnr api fuel ies (cfg80211ParseColocatedApIter alloc ssidElem sSsidTmp) .start).map fun r =>
      if r.2 then ⟨r.1.data.nColoc, list ++ r.1.data.apList, r.1.data⟩
      else ⟨0, list, { r.1.data with apList := [], freed := r.1.data.freed ++ r.1.data.apList.map Prod.fst }⟩

/-! ## What becomes of the entries -/

/-- **Every allocated entry** was freed, or is in the list. -/
structure Accounted (data : ColocatedApData) : Prop where
  fresh : ∀ i ∈ data.allocated, i < data.asked
  nodup : data.allocated.Nodup
  perm : data.allocated.Perm (data.freed ++ data.apList.map Prod.fst)
  count : data.nColoc = data.apList.length

theorem accounted_start : Accounted .start := ⟨nofun, .nil, .nil, rfl⟩

theorem Accounted.iter {data : ColocatedApData} (h : Accounted data) (alloc : Nat → Bool) (ssidElem : Element) (sSsidTmp : BitVec 32)
    (t : Tbtt) : Accounted (cfg80211ParseColocatedApIter alloc ssidElem sSsidTmp data t).2 := by
  have hasked : ∀ i ∈ data.allocated ++ [data.asked], i < data.asked + 1 := by
    intro i hi
    rcases List.mem_append.mp hi with hi | hi
    · exact Nat.lt_succ_of_lt (h.fresh i hi)
    · rw [List.mem_singleton.mp hi]
      exact Nat.lt_succ_self _
  have hnodup : (data.allocated ++ [data.asked]).Nodup := by
    refine List.nodup_append.mpr ⟨h.nodup, List.nodup_singleton _, fun a ha b hb => ?_⟩
    rw [List.mem_singleton.mp hb]
    exact Nat.ne_of_lt (h.fresh a ha)
  unfold cfg80211ParseColocatedApIter
  by_cases htype : t.type ≠ 0
  · rw [if_pos htype]
    exact h
  · rw [if_neg htype]
    cases ieee80211OperatingClassToBand t.info.opClass.toNat with
    | none => exact h
    | some band =>
      dsimp only
      by_cases hskip : band ≠ .ghz6 ∨ ¬ (t.length = 8 ∨ t.length = 9 ∨ 12 ≤ t.length)
      · rw [if_pos hskip]
        exact h
      · rw [if_neg hskip]
        by_cases halloc : alloc data.asked = false
        · rw [if_pos halloc]
          exact ⟨fun i hi => Nat.lt_succ_of_lt (h.fresh i hi), h.nodup, h.perm, h.count⟩
        · rw [if_neg halloc]
          generalize cfg80211ParseApInfo _ t.tbttInfo t.length ssidElem sSsidTmp = parsed
          cases parsed with
          | some entry =>
            refine ⟨hasked, hnodup, ?_, ?_⟩
            · dsimp only
              rw [List.map_append, ← List.append_assoc]
              exact h.perm.append_right _
            · dsimp only
              rw [List.length_append, h.count]
              rfl
          | none =>
            refine ⟨hasked, hnodup, ?_, h.count⟩
            dsimp only
            rw [List.append_assoc]
            exact (h.perm.append_right _).trans (by
              rw [List.append_assoc]
              exact (List.perm_append_comm).append_left _)

theorem iter_ne_break (alloc : Nat → Bool) (ssidElem : Element) (sSsidTmp : BitVec 32) (data : ColocatedApData) (t : Tbtt) :
    (cfg80211ParseColocatedApIter alloc ssidElem sSsidTmp data t).1 ≠ .break := by
  unfold cfg80211ParseColocatedApIter
  by_cases htype : t.type ≠ 0
  · rw [if_pos htype]
    exact nofun
  · rw [if_neg htype]
    cases ieee80211OperatingClassToBand t.info.opClass.toNat with
    | none => exact nofun
    | some band =>
      dsimp only
      generalize cfg80211ParseApInfo _ t.tbttInfo t.length ssidElem sSsidTmp = parsed
      cases parsed <;> split_ifs <;> exact nofun

/-- **The entries of a frame.** -/
structure ColocatedRight (api : ElementApi) (ies : List Byte) (list : List (Nat × ColocatedAp)) (r : Colocated) : Prop where
  /-- The list is extended by as many entries as are counted; all others were freed, each once. -/
  account : ∃ kept, r.list = list ++ kept ∧ r.count = kept.length ∧ r.data.allocated.Nodup ∧
    r.data.allocated.Perm (r.data.freed ++ kept.map Prod.fst)
  /-- A frame with a report that is not well-formed yields no entry, and all that were allocated are freed. -/
  malformed : (∃ rnr ∈ rnrElements api ies, ¬ WellFormed Neighbor.bytes rnr.data) →
    r.count = 0 ∧ r.list = list ∧ r.data.allocated.Perm r.data.freed

theorem cfg80211ParseColocatedAp_right (api : ElementApi) (crc32Le : BitVec 32 → List Byte → BitVec 32) (alloc : Nat → Bool)
    (ies : List Byte) (list : List (Nat × ColocatedAp)) :
    ∃ r, (∀ fuel, 256 ≤ fuel → cfg80211ParseColocatedAp api crc32Le alloc fuel ies list = some r) ∧ ColocatedRight api ies list r := by
  unfold cfg80211ParseColocatedAp
  cases cfg80211CalcShortSsid api crc32Le ies with
  | none =>
    refine ⟨⟨0, list, .start⟩, fun _ _ => rfl, ⟨[], (List.append_nil _).symm, rfl, .nil, .nil⟩, fun _ => ⟨rfl, rfl, .nil⟩⟩
  | some ssid =>
    obtain ⟨ssidElem, sSsidTmp⟩ := ssid
    obtain ⟨run, ret, hiter, hright⟩ :=
      cfg80211IterRnr_right api ies (cfg80211ParseColocatedApIter alloc ssidElem sSsidTmp) ColocatedApData.start
    have hkeep : ∀ d t, Accounted d → Accounted (cfg80211ParseColocatedApIter alloc ssidElem sSsidTmp d t).2 :=
      fun _ t h => h.iter alloc ssidElem sSsidTmp t
    obtain ⟨hacc, hcalls⟩ := cfg80211IterRnr_inv hkeep accounted_start (Nat.le_refl 256) (hiter 256 (Nat.le_refl 256))
    refine ⟨_, fun fuel hfuel => congrArg (Option.map _) (hiter fuel hfuel), ?_⟩
    dsimp only
    have hnobreak : ∀ c ∈ run.calls, c.2 ≠ .break := by
      intro c hc
      obtain ⟨d, hd⟩ := hcalls c hc
      rw [hd]
      exact iter_ne_break alloc ssidElem sSsidTmp d c.1
    cases ret with
    | true =>
      refine ⟨⟨run.data.apList, rfl, hacc.count, hacc.nodup, hacc.perm⟩, fun hbad => ?_⟩
      exact absurd (hright.malformed hbad hnobreak) Bool.noConfusion
    | false =>
      refine ⟨⟨[], (List.append_nil _).symm, rfl, hacc.nodup, ?_⟩, fun _ => ⟨rfl, rfl, hacc.perm⟩⟩
      exact hacc.perm.trans (List.Perm.of_eq (List.append_nil _).symm)

/-- **Reports are iterated over, and read, right**; a callback may end the iteration. -/
theorem rnr_right (api : ElementApi) (elems : List Byte) :
    (∀ (σ : Type) (iter : Iter σ) (iterData : σ), ∃ run ret,
      (∀ fuel, 256 ≤ fuel → cfg80211IterRnr api fuel elems iter iterData = some (run, ret)) ∧ IterRight (rnrElements api elems) run ret) ∧
    ∀ (crc32Le : BitVec 32 → List Byte → BitVec 32) (alloc : Nat → Bool) (list : List (Nat × ColocatedAp)), ∃ r,
      (∀ fuel, 256 ≤ fuel → cfg80211ParseColocatedAp api crc32Le alloc fuel elems list = some r) ∧ ColocatedRight api elems list r :=
  ⟨fun _ iter iterData => cfg80211IterRnr_right api elems iter iterData,
    fun crc32Le alloc list => cfg80211ParseColocatedAp_right api crc32Le alloc elems list⟩

def breakAtOnce : Iter Unit := fun _ _ => (.break, ())

/-- A report with one TBTT info, and a byte behind it: a callback that breaks off is not told. -/
theorem broken_off_before_junk :
    ¬ WellFormed Neighbor.bytes [0, 1, 131, 33, 7, 9] ∧
      ((cfg80211IterRnr .linux 256 [201, 6, 0, 1, 131, 33, 7, 9] breakAtOnce ()).map Prod.snd) = some true := by
  refine ⟨?_, by decide⟩
  have hstart : ([0, 1, 131, 33, 7, 9] : List Byte) =
      [(⟨⟨0, 1, 131, 33⟩, [[7]], rfl, by decide⟩ : Neighbor)].flatMap Neighbor.bytes ++ [9] := rfl
  have hrest : ¬ Starts Neighbor.bytes [9] := by
    rintro ⟨nb, rest, heq⟩
    have hlen := congrArg List.length heq
    rw [List.length_append, nb.length_bytes] at hlen
    have : ([9] : List Byte).length = 1 := rfl
    omega
  rw [hstart, neighbor_delimited.wellFormed_iff hrest]
  exact nofun

end Wireless.Rnr
