import Wifi.Lib.SearchTree
import Wifi.Wireless.FindElem

/-!
# The order of BSS entries (`linux/net/wireless/scan.c`)

* `Cfg80211Bss` — `struct cfg80211_bss`; pointers to other entries are their addresses.
* `cmpBss`, `rbInsertBss`, `rbFindBss` — the functions of `scan.c`.  The red-black tree itself is not
  in the tree: `rbInsertBss` links the entry, what balances the tree afterwards is left open.
* `localCmp` — `cmp_bss` for entries on one channel, and `cmpBss_regular`.
-/

namespace Wireless

open Comparator SearchTree

def WLAN_EID_MESH_CONFIG : Byte := 113
def WLAN_EID_MESH_ID : Byte := 114

/-- `struct ieee80211_channel`; channels are told apart by their address. -/
structure Channel where
  addr : Nat
  centerFreq : BitVec 32
  freqOffset : BitVec 16
  deriving DecidableEq

/-- A MAC address, `u8[ETH_ALEN]`. -/
structure MacAddr where
  octets : List Byte
  length_eq : octets.length = 6
  deriving DecidableEq

/-- `struct cfg80211_bss_ies`. -/
structure BssIes where
  addr : Nat
  data : List Byte
  deriving DecidableEq

/-- `struct cfg80211_bss`. -/
structure Cfg80211Bss where
  channel : Channel
  capability : BitVec 16
  bssid : MacAddr
  ies : Option BssIes
  beaconIes : Option BssIes
  proberespIes : Option BssIes
  hiddenBeaconBss : Option Nat
  transmittedBss : Option Nat
  deriving DecidableEq

/-- `WLAN_CAPABILITY_IS_STA_BSS`: neither ESS nor IBSS. -/
def isStaBss (capability : BitVec 16) : Bool := capability &&& 3 == 0

/-- The frequency of a channel in kHz, in `u32` arithmetic. -/
def Channel.khz (c : Channel) : BitVec 32 := c.centerFreq * 1000 + c.freqOffset.setWidth 32

inductive BssCompareMode where
  | regular | hideZlen | hideNul
  deriving DecidableEq

variable (api : ElementApi)

/-- `ie1` and `ie2` of the mesh comparison: the mesh ID of a STA BSS. -/
def meshIdElem (bss : Cfg80211Bss) (ies : List Byte) : Option Element :=
  if isStaBss bss.capability then cfg80211FindElem api WLAN_EID_MESH_ID ies else none

/-- The end of `cmp_bss`: BSSID, then SSID. -/
def cmpBssidSsid (mode : BssCompareMode) (a b : Cfg80211Bss) (aIes bIes : List Byte) : Int :=
  let r := memcmp 6 a.bssid.octets b.bssid.octets
  if r ≠ 0 then r
  else
    match cfg80211FindElem api WLAN_EID_SSID aIes, cfg80211FindElem api WLAN_EID_SSID bIes with
    | none, none => 0
    -- sort missing IE before (left of) present IE
    | none, some _ => -1
    | some _, none => 1
    | some ie1, some ie2 =>
      match mode with
      | .hideZlen => ie2.datalen
      | .regular =>
        -- sort by length first, then by contents
        if ie1.datalen ≠ ie2.datalen then (ie2.datalen : Int) - ie1.datalen
        else memcmp ie1.datalen ie1.data ie2.data
      | .hideNul =>
        if ie1.datalen ≠ ie2.datalen then (ie2.datalen : Int) - ie1.datalen
        -- this is equivalent to memcmp(zeroes, ie2 + 2, len)
        else if ie2.data.any (· ≠ 0) then -1 else 0

def cmpBss (mode : BssCompareMode) (a b : Cfg80211Bss) : Int :=
  if a.channel ≠ b.channel then (b.channel.khz - a.channel.khz).toInt
  else
    match a.ies, b.ies with
    | none, _ => -1
    | some _, none => 1
    | some aIes, some bIes =>
      match meshIdElem api a aIes.data, meshIdElem api b bIes.data with
      | some ie1, some ie2 =>
        let meshIdCmp : Int :=
          if ie1.datalen = ie2.datalen then memcmp ie1.datalen ie1.data ie2.data
          else (ie2.datalen : Int) - ie1.datalen
        match cfg80211FindElem api WLAN_EID_MESH_CONFIG aIes.data,
            cfg80211FindElem api WLAN_EID_MESH_CONFIG bIes.data with
        | some ie1, some ie2 =>
          if meshIdCmp ≠ 0 then meshIdCmp
          else if ie1.datalen ≠ ie2.datalen then (ie2.datalen : Int) - ie1.datalen
          else memcmp ie1.datalen ie1.data ie2.data
        | _, _ => cmpBssidSsid api mode a b aIes.data bIes.data
      | _, _ => cmpBssidSsid api mode a b aIes.data bIes.data

/-- `rb_insert_bss`, before the tree is balanced. -/
def rbInsertBss (tree : SearchTree.Tree Cfg80211Bss) (bss : Cfg80211Bss) : SearchTree.Tree Cfg80211Bss :=
  tree.insert (fun tbss => cmpBss api .regular bss tbss) bss

def rbFindBss (tree : SearchTree.Tree Cfg80211Bss) (res : Cfg80211Bss) (mode : BssCompareMode) :
    Option Cfg80211Bss :=
  tree.find fun bss => cmpBss api mode res bss

/-! ## Entries on one channel -/

/-- Mesh ID and mesh configuration of a mesh entry. -/
def meshKey (bss : Cfg80211Bss) : Option (List Byte × List Byte) :=
  match bss.ies with
  | none => none
  | some ies =>
    match meshIdElem api bss ies.data, cfg80211FindElem api WLAN_EID_MESH_CONFIG ies.data with
    | some meshId, some meshConfig => some (meshId.data, meshConfig.data)
    | _, _ => none

def ssidKey (bss : Cfg80211Bss) : Option (List Byte) :=
  match bss.ies with
  | none => none
  | some ies => (cfg80211FindElem api WLAN_EID_SSID ies.data).map Element.data

/-- The order of mesh entries: by mesh ID, then by mesh configuration. -/
def meshCmp : List Byte × List Byte → List Byte × List Byte → Int :=
  lex (fun a b => longerFirst a.1 b.1) fun a b => longerFirst a.2 b.2

/-- The order of other entries: by BSSID, then by SSID. -/
def addrCmp : Cfg80211Bss → Cfg80211Bss → Int :=
  lex (fun a b => memcmp 6 a.bssid.octets b.bssid.octets) fun a b =>
    noneFirst longerFirst (ssidKey api a) (ssidKey api b)

def localCmp (a b : Cfg80211Bss) : Int :=
  match meshKey api a, meshKey api b with
  | some m, some m' => meshCmp m m'
  | _, _ => addrCmp api a b

theorem cmpBssidSsid_regular {a b : Cfg80211Bss} {aIes bIes : BssIes} (ha : a.ies = some aIes)
    (hb : b.ies = some bIes) :
    cmpBssidSsid api .regular a b aIes.data bIes.data = addrCmp api a b := by
  unfold cmpBssidSsid addrCmp lex ssidKey
  simp only [ha, hb]
  by_cases hr : memcmp 6 a.bssid.octets b.bssid.octets = 0
  · rw [if_neg (not_not.2 hr), if_neg (not_not.2 hr)]
    cases cfg80211FindElem api WLAN_EID_SSID aIes.data with
    | none => cases cfg80211FindElem api WLAN_EID_SSID bIes.data <;> rfl
    | some ie1 =>
      cases cfg80211FindElem api WLAN_EID_SSID bIes.data with
      | none => rfl
      | some ie2 =>
        exact (longerFirst_of_ne ie1.data ie2.data).symm
  · rw [if_pos hr, if_pos hr]

/-- **`cmp_bss` compares frequencies, or keys of entries on one channel.** -/
theorem cmpBss_regular {a b : Cfg80211Bss} (ha : a.ies.isSome) (hb : b.ies.isSome) :
    cmpBss api .regular a b =
      if a.channel ≠ b.channel then (b.channel.khz - a.channel.khz).toInt else localCmp api a b := by
  obtain ⟨aIes, ha⟩ := Option.isSome_iff_exists.1 ha
  obtain ⟨bIes, hb⟩ := Option.isSome_iff_exists.1 hb
  unfold cmpBss localCmp meshKey
  have hlast := cmpBssidSsid_regular api ha hb
  simp only [ha, hb]
  split
  · rfl
  · cases meshIdElem api a aIes.data with
    | none => exact hlast
    | some ie1 =>
      cases meshIdElem api b bIes.data with
      | none =>
        cases cfg80211FindElem api WLAN_EID_MESH_CONFIG aIes.data <;> exact hlast
      | some ie2 =>
        cases cfg80211FindElem api WLAN_EID_MESH_CONFIG aIes.data with
        | none => exact hlast
        | some cfg1 =>
          cases cfg80211FindElem api WLAN_EID_MESH_CONFIG bIes.data with
          | none => exact hlast
          | some cfg2 =>
            simp only [meshCmp, lex, longerFirst_of_ne cfg1.data cfg2.data]
            rfl

end Wireless

/-!
## When `cmp_bss` orders BSS entries

* `Compatible` — the condition on three entries: their frequencies do not wrap, and an entry that is
  not a mesh entry does not contradict the order of two mesh entries.
* `ordered_iff_compatible` — three entries are in order exactly when they are compatible.
* `cmpBss_orders` — **that is when `cmp_bss` is a total preorder**, and in a tree of compatible
  entries `rb_find_bss` finds what was inserted.
-/

namespace Wireless

open Comparator SearchTree

variable (api : ElementApi)

/-- `cmp_bss` orders the three entries. -/
def Ordered (a b c : Cfg80211Bss) : Prop :=
  (cmpBss api .regular a b).sign = -(cmpBss api .regular b a).sign ∧
    (cmpBss api .regular a b ≤ 0 → cmpBss api .regular b c ≤ 0 → cmpBss api .regular a c ≤ 0)

/-! ## Frequencies -/

/-- The difference of two frequencies, in `int` arithmetic. -/
def freqGap (a b : Cfg80211Bss) : Int := (b.channel.khz - a.channel.khz).toInt

theorem freqGap_spec (a b : Cfg80211Bss) : ∃ q : Int,
    freqGap a b = b.channel.khz.toNat - a.channel.khz.toNat + 4294967296 * q ∧
      -2147483648 ≤ freqGap a b ∧ freqGap a b < 2147483648 := by
  have ha := a.channel.khz.isLt
  have hb := b.channel.khz.isLt
  unfold freqGap
  rw [BitVec.toInt_eq_toNat_cond, BitVec.toNat_sub]
  split
  · by_cases h : a.channel.khz.toNat ≤ b.channel.khz.toNat
    · exact ⟨0, by omega⟩
    · exact ⟨1, by omega⟩
  · by_cases h : a.channel.khz.toNat ≤ b.channel.khz.toNat
    · exact ⟨-1, by omega⟩
    · exact ⟨0, by omega⟩

theorem freqGap_symm {a b : Cfg80211Bss} :
    (freqGap a b).sign = -(freqGap b a).sign ↔ freqGap a b ≠ -2147483648 := by
  obtain ⟨q, hq, hlo, hhi⟩ := freqGap_spec a b
  obtain ⟨q', hq', hlo', hhi'⟩ := freqGap_spec b a
  constructor
  · intro h hm
    have hneg := sign_neg_iff h
    omega
  · intro hm
    have hs : freqGap b a = -freqGap a b := by omega
    rw [hs, Int.sign_neg, Int.neg_neg]

/-! ## Keys -/

theorem meshCmp_preorder : TotalPreorder meshCmp :=
  .lex (TotalPreorder.longerFirst.comap Prod.fst) (TotalPreorder.longerFirst.comap Prod.snd)

theorem bssid_preorder : TotalPreorder fun a b : Cfg80211Bss =>
    memcmp 6 a.bssid.octets b.bssid.octets := by
  refine ⟨fun a b => ?_, fun a b c => ?_⟩
  · rw [memcmp_symm, Int.sign_neg]
  · exact memcmp_trans 6 a.bssid.length_eq b.bssid.length_eq c.bssid.length_eq

theorem addrCmp_preorder : TotalPreorder (addrCmp api) :=
  bssid_preorder.lex (TotalPreorder.longerFirst.noneFirst.comap (ssidKey api))

/-- The mesh order, where it is used: on two mesh entries. -/
def MeshLe (a b : Cfg80211Bss) : Prop :=
  ∃ m ∈ meshKey api a, ∃ m' ∈ meshKey api b, meshCmp m m' ≤ 0

def AddrLe (a b : Cfg80211Bss) : Prop := addrCmp api a b ≤ 0

/-- The order of the keys that both entries have. -/
def KeyLe (a b : Cfg80211Bss) : Prop :=
  if (meshKey api a).isSome ∧ (meshKey api b).isSome then MeshLe api a b else AddrLe api a b

theorem keyLe_iff (a b : Cfg80211Bss) : KeyLe api a b ↔ localCmp api a b ≤ 0 := by
  unfold KeyLe localCmp MeshLe
  cases meshKey api a with
  | none => exact Iff.rfl
  | some m =>
    cases meshKey api b with
    | none => exact Iff.rfl
    | some m' =>
      rw [if_pos ⟨rfl, rfl⟩]
      constructor
      · intro ⟨x, hx, y, hy, h⟩
        cases hx
        cases hy
        exact h
      · exact fun h => ⟨m, rfl, m', rfl, h⟩

theorem localCmp_symm (a b : Cfg80211Bss) :
    (localCmp api a b).sign = -(localCmp api b a).sign := by
  unfold localCmp
  cases meshKey api a with
  | none => cases meshKey api b <;> exact (addrCmp_preorder api).symm a b
  | some m =>
    cases meshKey api b with
    | none => exact (addrCmp_preorder api).symm a b
    | some m' => exact meshCmp_preorder.symm m m'

/-! ## Compatible entries -/

/-- Two mesh entries and one that is none: the third does not stand between the two against their
    mesh order, or beyond one of them against it. -/
structure MeshCompatible (a b c : Cfg80211Bss) : Prop where
  middle : (meshKey api a).isSome → meshKey api b = none → (meshKey api c).isSome →
    AddrLe api a b → AddrLe api b c → MeshLe api a c
  last : (meshKey api a).isSome → (meshKey api b).isSome → meshKey api c = none →
    MeshLe api a b → AddrLe api b c → AddrLe api a c
  first : meshKey api a = none → (meshKey api b).isSome → (meshKey api c).isSome →
    AddrLe api a b → MeshLe api b c → AddrLe api a c

theorem localCmp_trans_iff (a b c : Cfg80211Bss) :
    (localCmp api a b ≤ 0 → localCmp api b c ≤ 0 → localCmp api a c ≤ 0) ↔
      MeshCompatible api a b c := by
  have hmesh := meshCmp_preorder
  have haddr := addrCmp_preorder api
  rw [← keyLe_iff, ← keyLe_iff, ← keyLe_iff]
  unfold KeyLe
  constructor
  · intro h
    refine ⟨fun ha hb hc => ?_, fun ha hb hc => ?_, fun ha hb hc => ?_⟩
    · simpa [ha, hb, hc] using h
    · simpa [ha, hb, hc] using h
    · simpa [ha, hb, hc] using h
  · intro h
    cases ha : meshKey api a with
    | none =>
      cases hb : meshKey api b with
      | none =>
        simpa [AddrLe] using haddr.trans a b c
      | some mb =>
        cases hc : meshKey api c with
        | none => simpa [AddrLe] using haddr.trans a b c
        | some mc => simpa using h.first ha (by rw [hb]; rfl) (by rw [hc]; rfl)
    | some ma =>
      cases hb : meshKey api b with
      | none =>
        cases hc : meshKey api c with
        | none => simpa [AddrLe] using haddr.trans a b c
        | some mc => simpa using h.middle (by rw [ha]; rfl) hb (by rw [hc]; rfl)
      | some mb =>
        cases hc : meshKey api c with
        | none => simpa using h.last (by rw [ha]; rfl) (by rw [hb]; rfl) hc
        | some mc => simpa [MeshLe, ha, hb, hc] using hmesh.trans ma mb mc

/-- **The condition under which three entries are in order.** -/
structure Compatible (a b c : Cfg80211Bss) : Prop where
  /-- frequencies are not half the range of `u32` apart -/
  half : a.channel ≠ b.channel → freqGap a b ≠ -2147483648
  /-- the frequencies of three channels do not wrap around -/
  wrap : a.channel ≠ b.channel → b.channel ≠ c.channel → a.channel ≠ c.channel →
    freqGap a b ≤ 0 → freqGap b c ≤ 0 → -2147483648 ≤ freqGap a b + freqGap b c
  /-- a channel with the same frequency as that of the two others does not contradict their order -/
  twin : a.channel = c.channel → a.channel ≠ b.channel → freqGap a b = 0 → KeyLe api a c
  mesh : a.channel = b.channel → b.channel = c.channel → MeshCompatible api a b c

theorem freqGap_congr {a a' b b' : Cfg80211Bss} (ha : a.channel = a'.channel)
    (hb : b.channel = b'.channel) : freqGap a b = freqGap a' b' := by
  unfold freqGap
  rw [ha, hb]

theorem cmpBss_same {a b : Cfg80211Bss} (ha : a.ies.isSome) (hb : b.ies.isSome)
    (h : a.channel = b.channel) : cmpBss api .regular a b = localCmp api a b := by
  rw [cmpBss_regular api ha hb, if_neg (not_not.2 h)]

theorem cmpBss_other {a b : Cfg80211Bss} (ha : a.ies.isSome) (hb : b.ies.isSome)
    (h : a.channel ≠ b.channel) : cmpBss api .regular a b = freqGap a b := by
  rw [cmpBss_regular api ha hb, if_pos h]
  rfl

theorem symm_iff {a b : Cfg80211Bss} (ha : a.ies.isSome) (hb : b.ies.isSome) :
    (cmpBss api .regular a b).sign = -(cmpBss api .regular b a).sign ↔
      (a.channel ≠ b.channel → freqGap a b ≠ -2147483648) := by
  by_cases h : a.channel = b.channel
  · rw [cmpBss_same api ha hb h, cmpBss_same api hb ha h.symm]
    exact ⟨fun _ hne => absurd h hne, fun _ => localCmp_symm api a b⟩
  · rw [cmpBss_other api ha hb h, cmpBss_other api hb ha (Ne.symm h), freqGap_symm]
    exact ⟨fun hg _ => hg, fun hg => hg h⟩

theorem trans_iff_same {a b c : Cfg80211Bss} (ha : a.ies.isSome) (hb : b.ies.isSome)
    (hc : c.ies.isSome) (hab : a.channel = b.channel) (hbc : b.channel = c.channel) :
    (cmpBss api .regular a b ≤ 0 → cmpBss api .regular b c ≤ 0 → cmpBss api .regular a c ≤ 0) ↔
      MeshCompatible api a b c := by
  rw [cmpBss_same api ha hb hab, cmpBss_same api hb hc hbc, cmpBss_same api ha hc (hab.trans hbc)]
  exact localCmp_trans_iff api a b c

theorem trans_iff_different {a b c : Cfg80211Bss} (ha : a.ies.isSome) (hb : b.ies.isSome)
    (hc : c.ies.isSome) (hab : a.channel ≠ b.channel) (hbc : b.channel ≠ c.channel)
    (hac : a.channel ≠ c.channel) (hhalf : freqGap a b ≠ -2147483648) :
    (cmpBss api .regular a b ≤ 0 → cmpBss api .regular b c ≤ 0 → cmpBss api .regular a c ≤ 0) ↔
      (freqGap a b ≤ 0 → freqGap b c ≤ 0 → -2147483648 ≤ freqGap a b + freqGap b c) := by
  rw [cmpBss_other api ha hb hab, cmpBss_other api hb hc hbc, cmpBss_other api ha hc hac]
  obtain ⟨q, hq, hlo, hhi⟩ := freqGap_spec a b
  obtain ⟨q', hq', hlo', hhi'⟩ := freqGap_spec b c
  obtain ⟨r, hr, hlo'', hhi''⟩ := freqGap_spec a c
  constructor
  · intro h h1 h2
    have := h h1 h2
    omega
  · intro h h1 h2
    have := h h1 h2
    omega

theorem ordered_iff_compatible {a b c : Cfg80211Bss} (ha : a.ies.isSome) (hb : b.ies.isSome)
    (hc : c.ies.isSome) : Ordered api a b c ↔ Compatible api a b c := by
  unfold Ordered
  rw [symm_iff api ha hb]
  by_cases hab : a.channel = b.channel
  · by_cases hbc : b.channel = c.channel
    · rw [trans_iff_same api ha hb hc hab hbc]
      constructor
      · intro ⟨hhalf, hmesh⟩
        exact ⟨hhalf, fun h => absurd hab h, fun _ h => absurd hab h, fun _ _ => hmesh⟩
      · exact fun h => ⟨h.half, h.mesh hab hbc⟩
    · have hac : a.channel ≠ c.channel := fun h => hbc (hab.symm.trans h)
      have hgap := freqGap_congr hab (rfl : c.channel = c.channel)
      rw [cmpBss_other api hb hc hbc, cmpBss_other api ha hc hac, hgap]
      constructor
      · intro ⟨hhalf, _⟩
        exact ⟨hhalf, fun h => absurd hab h, fun _ h => absurd hab h, fun _ h => absurd h hbc⟩
      · exact fun h => ⟨h.half, fun _ h2 => h2⟩
  · by_cases hac : a.channel = c.channel
    · have hbc : b.channel ≠ c.channel := fun h => hab (hac.trans h.symm)
      have hgap := freqGap_congr (rfl : b.channel = b.channel) hac.symm
      rw [cmpBss_other api ha hb hab, cmpBss_other api hb hc hbc, cmpBss_same api ha hc hac,
        ← keyLe_iff, hgap]
      obtain ⟨q, hq, hlo, hhi⟩ := freqGap_spec a b
      obtain ⟨q', hq', hlo', hhi'⟩ := freqGap_spec b a
      constructor
      · intro ⟨hhalf, htrans⟩
        refine ⟨hhalf, fun _ _ h => absurd hac h, fun _ _ h0 => ?_, fun h => absurd h hab⟩
        exact htrans (by omega) (by omega)
      · intro h
        refine ⟨h.half, fun h1 h2 => h.twin hac hab ?_⟩
        have := h.half hab
        omega
    · by_cases hbc : b.channel = c.channel
      · have hgap := freqGap_congr (rfl : a.channel = a.channel) hbc
        rw [cmpBss_other api ha hb hab, cmpBss_other api ha hc hac, ← hgap]
        constructor
        · intro ⟨hhalf, _⟩
          exact ⟨hhalf, fun _ h => absurd hbc h, fun h => absurd h hac, fun h => absurd h hab⟩
        · exact fun h => ⟨h.half, fun h1 _ => h1⟩
      · constructor
        · intro ⟨hhalf, htrans⟩
          rw [trans_iff_different api ha hb hc hab hbc hac (hhalf hab)] at htrans
          exact ⟨hhalf, fun _ _ _ => htrans, fun h => absurd h hac, fun h => absurd h hab⟩
        · intro h
          rw [trans_iff_different api ha hb hc hab hbc hac (h.half hab)]
          exact ⟨h.half, h.wrap hab hbc hac⟩

/-- The operations on the tree: what balances it keeps its order. -/
abbrev TreeStep : SearchTree.Tree Cfg80211Bss → TreeOp Cfg80211Bss → SearchTree.Tree Cfg80211Bss → Prop :=
  Step (cmpBss api .regular)

/-- **`cmp_bss` is a total preorder of exactly the compatible entries**, and where all entries are
    compatible, `rb_find_bss` finds an entry that compares equal whenever there is one. -/
theorem cmpBss_orders :
    (∀ a b c : Cfg80211Bss, a.ies.isSome → b.ies.isSome → c.ies.isSome →
      (Ordered api a b c ↔ Compatible api a b c)) ∧
    ∀ S : Cfg80211Bss → Prop, (∀ a, S a → a.ies.isSome) →
      (∀ a b c, S a → S b → S c → Compatible api a b c) →
      ∀ tree, Runs.Reachable (· = .leaf) (Runs.Guarded (TreeOp.Within S) (TreeStep api)) tree →
        ∀ res, S res → ∀ bss ∈ tree.inorder, cmpBss api .regular res bss = 0 →
          ∃ found ∈ tree.inorder, rbFindBss api tree res .regular = some found ∧
            cmpBss api .regular res found = 0 := by
  refine ⟨fun a b c ha hb hc => ordered_iff_compatible api ha hb hc, ?_⟩
  intro S hies hS tree hr res hres bss hbss h0
  have hord : ∀ a b c, S a → S b → S c → Ordered api a b c := fun a b c ha hb hc =>
    (ordered_iff_compatible api (hies a ha) (hies b hb) (hies c hc)).2 (hS a b c ha hb hc)
  have hpre : PreorderOn S (cmpBss api .regular) :=
    ⟨fun a b => (hord a b b a.2 b.2 b.2).1, fun a b c => (hord a b c a.2 b.2 c.2).2⟩
  obtain ⟨found, hf, hmem, hz⟩ := reachable_find hpre hr hres hbss h0
  exact ⟨found, hmem, hf, hz⟩

/-- An entry on channel 6, known from a beacon with these elements. -/
def channel6Bss (capability : BitVec 16) (octet : Byte) (data : List Byte) : Cfg80211Bss :=
  { channel := { addr := 0, centerFreq := 2437, freqOffset := 0 }
    capability := capability
    bssid := { octets := [2, 0, 0, 0, 0, octet], length_eq := rfl }
    ies := some { addr := 0, data := data }
    beaconIes := some { addr := 0, data := data }
    proberespIes := none
    hiddenBeaconBss := none
    transmittedBss := none }

/-- An access point with an SSID of one letter. -/
def accessPoint (octet letter : Byte) : Cfg80211Bss := channel6Bss 1 octet [0, 1, letter]

/-- A mesh station with a mesh ID of one letter and an empty configuration. -/
def meshStation (octet letter : Byte) : Cfg80211Bss :=
  channel6Bss 0 octet [114, 1, letter, 113, 0]

/-- Entries on channel 6 of which at most the first is a mesh entry. -/
theorem compatible_channel6 {a b c : Cfg80211Bss} (hab : a.channel = b.channel) (hb : meshKey .linux b = none) (hc : meshKey .linux c = none) :
    Compatible .linux a b c := by
  refine ⟨fun h => absurd hab h, fun h => absurd hab h, fun _ h => absurd hab h, fun _ _ => ?_⟩
  refine ⟨fun _ _ h => ?_, fun _ h => ?_, fun _ h => ?_⟩
  · rw [hc] at h
    cases h
  · rw [hb] at h
    cases h
  · rw [hb] at h
    cases h

/-- Access points next to a mesh station, and a tree of access points. -/
theorem cmpBss_orders_accessPoints :
    Ordered .linux (meshStation 1 97) (accessPoint 2 98) (accessPoint 3 99) ∧
      ∃ found, rbFindBss .linux (rbInsertBss .linux .leaf (accessPoint 2 98)) (accessPoint 2 98)
        .regular = some found := by
  obtain ⟨hiff, hfind⟩ := cmpBss_orders .linux
  refine ⟨(hiff _ _ _ rfl rfl rfl).2 (compatible_channel6 rfl rfl rfl), ?_⟩
  obtain ⟨found, -, hf, -⟩ := hfind (· = accessPoint 2 98) (fun a ha => by rw [ha]; rfl)
    (fun a b c ha hb hc => by
      rw [ha, hb, hc]
      exact compatible_channel6 rfl rfl rfl)
    (rbInsertBss .linux .leaf (accessPoint 2 98))
    (.next (i := .insert (accessPoint 2 98)) (.start rfl) ⟨rfl, .insert rfl⟩)
    (accessPoint 2 98) rfl (accessPoint 2 98) List.mem_cons_self rfl
  exact ⟨found, hf⟩

/-- Mesh stations `b` and `a` with BSSIDs ending in 1 and 3, and an access point with one ending in
    2: each is before the next, and the first is behind the last. -/
theorem cmpBss_orders_fails :
    ¬ ∀ a b c : Cfg80211Bss, a.ies.isSome → b.ies.isSome → c.ies.isSome → Ordered .linux a b c := by
  intro h
  have hord := (h (meshStation 1 98) (accessPoint 2 99) (meshStation 3 97) rfl rfl rfl).2
  revert hord
  decide

end Wireless
