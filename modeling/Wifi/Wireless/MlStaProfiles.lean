import Wifi.Wireless.ColocatedAp
import Wifi.Wireless.GenNewIeMle

/-!
# Per-STA profiles of a Multi-Link element (`linux/net/wireless/scan.c`)

* `MleApi` — what the kernel headers say of Multi-Link elements; `Frame` — the frame data, with a Multi-Link element among them.
* `cfg80211ParseMlElemStaData` — `cfg80211_parse_ml_elem_sta_data`: what it hands to `cfg80211_inform_single_bss_data`, and for which profile.
* `LinkRight` — what is handed does not depend on other profiles, and fits in the buffer.
* `linkRight_iff` — it is so, unless a profile before has left a reason not to use its BSS.
-/

namespace Wireless.MlSta

open Rnr

def IEEE80211_MAX_DATA_LEN : Nat := 2304

/-- `get_unaligned_le16` -/
def le16 (b : List Byte) : BitVec 16 := b.getD 1 0 ++ b.getD 0 0

/-- `get_unaligned_le64` -/
def le64 (b : List Byte) : BitVec 64 := le32 (b.drop 4) ++ le32 b

/-! ## The RNR -/

/-- **`struct tbtt_info_iter_data`**, but for what is looked for. -/
structure TbttInfoIterData where
  apInfo : NeighborApInfo
  paramChCount : Byte
  useFor : BitVec 8
  deriving DecidableEq

/-- `= {}` -/
def TbttInfoIterData.start : TbttInfoIterData := ⟨⟨0, 0, 0, 0⟩, 0, 0⟩

def NL80211_BSS_USE_FOR_NORMAL : BitVec 8 := 1
def NL80211_BSS_USE_FOR_MLD_LINK : BitVec 8 := 2
def NL80211_BSS_USE_FOR_ALL : BitVec 8 := 3

/-- `struct ieee80211_rnr_mld_params` of a TBTT info, when it has it. -/
def mldParams (t : Tbtt) : Option (List Byte) :=
  if t.type = 0 ∧ 16 ≤ t.length then some (t.tbttInfo.drop 13)
  else if t.type = 1 ∧ 3 ≤ t.length then some t.tbttInfo
  else none

def cfg802121MldApRnrIter (mldId : Byte) (linkId : BitVec 4) : Iter TbttInfoIterData := fun data t =>
  match mldParams t with
  | none => (.continue, data)
  | some params =>
    if mldId ≠ params.getD 0 0 then (.continue, data)
    else if linkId ≠ (le16 (params.drop 1)).setWidth 4 then (.continue, data)
    else
      (.break,
        { apInfo := t.info
          paramChCount := (le16 (params.drop 1) >>> 4).setWidth 8
          useFor := if t.type = 0 then NL80211_BSS_USE_FOR_ALL else NL80211_BSS_USE_FOR_MLD_LINK })

/-- `cfg80211_rnr_info_for_mld_ap`; 256 turns suffice for an element. -/
def cfg80211RnrInfoForMldAp (api : ElementApi) (ie : List Byte) (mldId : Byte) (linkId : BitVec 4) : TbttInfoIterData :=
  match cfg80211IterRnr api 256 ie (cfg802121MldApRnrIter mldId linkId) .start with
  | none => .start
  | some r => r.1.data

/-! ## Frames -/

abbrev Ptr := Nat → Byte

/-- `control` of `struct ieee80211_multi_link_elem` -/
def mlControl (ml : Ptr) : BitVec 16 := ml 1 ++ ml 0

/-- `ml_elem->variable[0]` -/
def mlCommonLen (ml : Ptr) : Nat := (ml 2).toNat

/-- `IEEE80211_MLC_BASIC_PRES_LINK_ID`, `IEEE80211_MLC_BASIC_PRES_BSS_PARAM_CH_CNT`, `IEEE80211_MLC_BASIC_PRES_MLD_CAPA_OP` -/
def requiredPresent (control : BitVec 16) : Bool := control.getLsbD 5 && control.getLsbD 4 && control.getLsbD 8

/-- **Header functions of Multi-Link elements.** -/
structure MleApi where
  /-- `ieee80211_mle_type_ok`, for `IEEE80211_ML_CONTROL_TYPE_BASIC` -/
  typeOk : Ptr → Nat → Bool
  /-- `ieee80211_mle_get_mld_id` -/
  getMldId : Ptr → Byte
  /-- `ieee80211_mle_basic_sta_prof_size_ok` -/
  basicStaProfSizeOk : List Byte → Bool
  /-- The common length counts itself, the MLD address, and what is present. -/
  typeOk_common : ∀ ml len, typeOk ml len = true → requiredPresent (mlControl ml) = true → 11 ≤ mlCommonLen ml
  /-- The MLD ID is in the common info. -/
  getMldId_congr : ∀ ml ml' len len', typeOk ml len = true → typeOk ml' len' = true →
    (∀ i, i < 2 + mlCommonLen ml → ml i = ml' i) → getMldId ml = getMldId ml'

/-- **What the function gets**: the elements of the frame up to a Multi-Link element, this one with the fragments behind it, those after
them, and bytes that are no element. -/
structure Frame where
  tsf : BitVec 64
  before : List Element
  mle : List Element
  after : List Element
  rest : List Byte
  isMle : IsMle mle
  rest_none : ¬ StartsElement rest
  /-- the bytes from `ml_elem` on, and how many are in the element -/
  mlElem : Ptr
  mlLen : Nat
  /-- the profiles of `cfg80211_defrag_mle`, unless it fails -/
  staProf : Option (List (List Byte))
  /-- whether there is memory for `new_ie` -/
  alloc : Bool
  /-- what `cfg80211_gen_reporter_rnr` gives -/
  reporterRnr : Option (List Byte)

/-- `tx_data->ie` -/
def Frame.ie (frame : Frame) : List Byte := elementBytes (frame.before ++ (frame.mle ++ frame.after)) ++ frame.rest

/-- **What of `struct cfg80211_inform_single_bss_data`** is set for a profile. -/
structure InformData (χ : Type) where
  channel : Option χ
  bssid : List Byte
  tsf : BitVec 64
  capability : BitVec 16
  beaconInterval : BitVec 16
  ie : List Byte
  useFor : BitVec 8
  cannotUseReasons : BitVec 64

/-- `= {}` -/
def InformData.zero {χ : Type} : InformData χ := ⟨none, List.replicate 6 0, 0, 0, 0, [], 0, 0⟩

def NL80211_BSS_CANNOT_USE_NSTR_NONPRIMARY : BitVec 64 := 1
def NL80211_BSS_CANNOT_USE_6GHZ_PWR_MISMATCH : BitVec 64 := 2

/-- **The wiphy**, whose state may change when a BSS is reported. -/
structure Wiphy (χ ω : Type) where
  /-- `ieee80211_get_channel_khz` -/
  getChannelKhz : Nat → Option χ
  /-- `WIPHY_FLAG_SUPPORTS_NSTR_NONPRIMARY` -/
  supportsNstr : Bool
  /-- whether `cfg80211_inform_single_bss_data` refuses the use for the sake of `cfg80211_6ghz_power_type_valid` -/
  powerMismatch : Option χ → List Byte → Bool
  /-- the rest of `cfg80211_inform_single_bss_data`: whether there is a BSS -/
  inform : ω → InformData χ → Bool × ω

variable {χ ω : Type}

/-- `cfg80211_inform_single_bss_data` writes to `data`, too. -/
def Wiphy.mark (wiphy : Wiphy χ ω) (data : InformData χ) : InformData χ :=
  if wiphy.powerMismatch data.channel data.ie then
    { data with useFor := 0, cannotUseReasons := NL80211_BSS_CANNOT_USE_6GHZ_PWR_MISMATCH }
  else data

/-! ## One profile -/

structure Ctx where
  tsf : BitVec 64
  /-- `cfg80211_gen_new_ie` of the frame and a profile -/
  genNewIe : List Byte → Nat × List Byte
  /-- `cfg80211_rnr_info_for_mld_ap` of the frame and a link -/
  rnrInfo : BitVec 4 → TbttInfoIterData
  commonLen : Nat
  /-- the bytes that are copied from `ml_elem` -/
  mlBytes : List Byte
  reporterRnr : Option (List Byte)

def Frame.ctx (api : ElementApi) (mleApi : MleApi) (frame : Frame) : Ctx where
  tsf := frame.tsf
  genNewIe profile := cfg80211GenNewIe api frame.ie profile IEEE80211_MAX_DATA_LEN
  rnrInfo := cfg80211RnrInfoForMldAp api frame.ie (mleApi.getMldId frame.mlElem)
  commonLen := mlCommonLen frame.mlElem
  mlBytes := (List.range (2 + mlCommonLen frame.mlElem)).map frame.mlElem
  reporterRnr := frame.reporterRnr

/-- `mle->sta_prof[i]->control` -/
def control (prof : List Byte) : BitVec 16 := le16 prof

/-- `IEEE80211_MLE_STA_CONTROL_LINK_ID` -/
def linkId (prof : List Byte) : BitVec 4 := (control prof).setWidth 4

/-- `IEEE80211_MLE_STA_CONTROL_COMPLETE_PROFILE` -/
def completeProfile (prof : List Byte) : Bool := (control prof).getLsbD 4

/-- `IEEE80211_MLE_STA_CONTROL_BEACON_INT_PRESENT`, `.._TSF_OFFS_PRESENT`, `.._STA_MAC_ADDR_PRESENT` -/
def fieldsPresent (prof : List Byte) : Bool := (control prof).getLsbD 6 && (control prof).getLsbD 7 && (control prof).getLsbD 5

/-- Where `profile` starts: `sta_info_len` counts itself. -/
def profileOff (prof : List Byte) : Nat := 3 + (prof.getD 2 0).toNat - 1

/-- The new elements: no room for them, or a write past the buffer. -/
inductive NewIe where
  | skip
  | outside
  | elements (ie : List Byte)

/-- The generated elements, the Multi-Link element, and the RNR for the reporter. -/
def newIe (ctx : Ctx) (profile : List Byte) (linkId : BitVec 4) (paramChCount : Byte) (useFor : BitVec 8) : NewIe :=
  let gen := ctx.genNewIe profile
  if gen.1 = 0 then .skip
  else if IEEE80211_MAX_DATA_LEN < gen.1 + 3 + 2 + ctx.commonLen then .skip
  -- the two bytes are written by their place in the buffer
  else if IEEE80211_MAX_DATA_LEN ≤ gen.1 + 3 + 2 + 1 + 6 + 1 then .outside
  else
    let ie := gen.2 ++ [WLAN_EID_EXTENSION, BitVec.ofNat 8 (1 + 2 + ctx.commonLen), WLAN_EID_EXT_EHT_MULTI_LINK] ++ ctx.mlBytes
    let ie := (ie.set (gen.1 + 3 + 2 + 1 + 6) (linkId.setWidth 8)).set (gen.1 + 3 + 2 + 1 + 6 + 1) paramChCount
    match ctx.reporterRnr with
    | none => .elements ie
    | some rnr =>
      if useFor &&& NL80211_BSS_USE_FOR_NORMAL = 0 then .elements ie
      else if IEEE80211_MAX_DATA_LEN < ie.length + rnr.length then .skip
      else .elements (ie ++ rnr)

/-- Whether a link may only be used as a link, of a wiphy that cannot do that. -/
def nstrOnly (wiphy : Wiphy χ ω) (useFor : BitVec 8) : Bool := useFor = NL80211_BSS_USE_FOR_MLD_LINK ∧ wiphy.supportsNstr = false

/-- The body of the loop, from where the link is seen on: the data, and whether they are handed over; `none` for a write past the buffer. -/
def staBody (wiphy : Wiphy χ ω) (ctx : Ctx) (data : InformData χ) (prof : List Byte) : Option (InformData χ × Bool) :=
  if fieldsPresent prof = false then some (data, false)
  else
    let variable' := prof.drop 3
    let data := { data with
      bssid := variable'.take 6
      beaconInterval := le16 (variable'.drop 6)
      tsf := ctx.tsf + le64 (variable'.drop 8) }
    if prof.length < profileOff prof + 2 then some (data, false)
    else
      let data := { data with capability := le16 (prof.drop (profileOff prof)) }
      let profile := prof.drop (profileOff prof + 2)
      let rnr := ctx.rnrInfo (linkId prof)
      if rnr.useFor = 0 then some (data, false)
      else
        match ieee80211OperatingClassToBand rnr.apInfo.opClass.toNat with
        | none => some (data, false)
        | some band =>
          let data := { data with channel := wiphy.getChannelKhz (ieee80211ChannelToFreqKhz rnr.apInfo.channel.toNat band) }
          let nstr := nstrOnly wiphy rnr.useFor
          let useFor := if nstr then 0 else rnr.useFor
          let data := if nstr then { data with cannotUseReasons := NL80211_BSS_CANNOT_USE_NSTR_NONPRIMARY } else data
          let data := { data with useFor := useFor }
          match newIe ctx profile (linkId prof) rnr.paramChCount useFor with
          | .skip => some (data, false)
          | .outside => none
          | .elements ie => some ({ data with ie := ie }, true)

/-! ## The loop -/

/-- **The loop over the profiles**, from the one numbered `i` on: which are handed over, with their data. -/
def staLoop (wiphy : Wiphy χ ω) (mleApi : MleApi) (ctx : Ctx) :
    List (List Byte) → Nat → BitVec 16 → InformData χ → ω → Option (List (Nat × InformData χ))
  | [], _, _, _, _ => some []
  | prof :: profs, i, seenLinks, data, w =>
    if mleApi.basicStaProfSizeOk prof = false then staLoop wiphy mleApi ctx profs (i + 1) seenLinks data w
    else if completeProfile prof = false then staLoop wiphy mleApi ctx profs (i + 1) seenLinks data w
    else if seenLinks.getLsbD (linkId prof).toNat then some []
    else
      let seenLinks := seenLinks ||| BitVec.twoPow 16 (linkId prof).toNat
      match staBody wiphy ctx data prof with
      | none => none
      | some (data, false) => staLoop wiphy mleApi ctx profs (i + 1) seenLinks data w
      | some (data, true) =>
        match wiphy.inform w data with
        | (false, _) => some [(i, data)]
        | (true, w) => (staLoop wiphy mleApi ctx profs (i + 1) seenLinks (wiphy.mark data) w).map ((i, data) :: ·)

/-- **`cfg80211_parse_ml_elem_sta_data`**; `none` for a write past the buffer. -/
def cfg80211ParseMlElemStaData (api : ElementApi) (mleApi : MleApi) (wiphy : Wiphy χ ω) (w : ω) (frame : Frame) :
    Option (List (Nat × InformData χ)) :=
  if mleApi.typeOk frame.mlElem frame.mlLen = false then some []
  else if requiredPresent (mlControl frame.mlElem) = false then some []
  else
    match frame.staProf with
    | none => some []
    | some profs => if frame.alloc then staLoop wiphy mleApi (frame.ctx api mleApi) profs 0 0 .zero w else some []

/-! ## What should hold -/

/-- **Two frames with the same data**, but for what the Multi-Link element holds behind the common info. -/
structure SameCommon (frame frame' : Frame) : Prop where
  tsf : frame'.tsf = frame.tsf
  before : frame'.before = frame.before
  after : frame'.after = frame.after
  rest : frame'.rest = frame.rest
  common : ∀ i, i < 2 + mlCommonLen frame.mlElem → frame'.mlElem i = frame.mlElem i
  reporterRnr : frame'.reporterRnr = frame.reporterRnr

def Frame.prof (frame : Frame) (i : Nat) : List Byte := (frame.staProf.getD []).getD i []

/-- **What is handed over for a profile**: it is what would be handed over for a frame with this profile alone, whatever becomes of it, and
fits in the buffer. -/
structure LinkRight (api : ElementApi) (mleApi : MleApi) (wiphy : Wiphy χ ω) (frame : Frame) (i : Nat) (data : InformData χ) : Prop where
  independent : ∀ (frame' : Frame) (w : ω) (r : List (Nat × InformData χ)), SameCommon frame frame' → frame'.staProf = some [frame.prof i] →
    cfg80211ParseMlElemStaData api mleApi wiphy w frame' = some r → ∀ x ∈ r, x.2 = data
  fits : data.ie.length ≤ IEEE80211_MAX_DATA_LEN

/-- A profile is read as far as its link's entry in the RNR. -/
def ReachesRnr (mleApi : MleApi) (ctx : Ctx) (prof : List Byte) (band : Band) : Prop :=
  mleApi.basicStaProfSizeOk prof = true ∧ completeProfile prof = true ∧ fieldsPresent prof = true ∧ profileOff prof + 2 ≤ prof.length ∧
    (ctx.rnrInfo (linkId prof)).useFor ≠ 0 ∧
      ieee80211OperatingClassToBand (ctx.rnrInfo (linkId prof)).apInfo.opClass.toNat = some band

/-- The link may only be used as a link, and the wiphy cannot do that: its own reason. -/
def OwnReason (wiphy : Wiphy χ ω) (mleApi : MleApi) (ctx : Ctx) (prof : List Byte) : Prop :=
  (∃ band, ReachesRnr mleApi ctx prof band) ∧ nstrOnly wiphy (ctx.rnrInfo (linkId prof)).useFor = true

/-- The 6 GHz power type of the link is refused. -/
def PowerReason (wiphy : Wiphy χ ω) (mleApi : MleApi) (ctx : Ctx) (prof : List Byte) : Prop :=
  ∃ band ie, ReachesRnr mleApi ctx prof band ∧
    newIe ctx (prof.drop (profileOff prof + 2)) (linkId prof) (ctx.rnrInfo (linkId prof)).paramChCount
        (if nstrOnly wiphy (ctx.rnrInfo (linkId prof)).useFor then 0 else (ctx.rnrInfo (linkId prof)).useFor) = .elements ie ∧
      wiphy.powerMismatch (wiphy.getChannelKhz (ieee80211ChannelToFreqKhz (ctx.rnrInfo (linkId prof)).apInfo.channel.toNat band)) ie = true

/-- The link has a reason of its own, or no profile before it has left one. -/
def NoReasonLeft (wiphy : Wiphy χ ω) (mleApi : MleApi) (ctx : Ctx) (frame : Frame) (i : Nat) : Prop :=
  OwnReason wiphy mleApi ctx (frame.prof i) ∨
    ∀ q ∈ (frame.staProf.getD []).take i, ¬ OwnReason wiphy mleApi ctx q ∧ ¬ PowerReason wiphy mleApi ctx q

/-! ## One profile -/

variable {wiphy : Wiphy χ ω} {mleApi : MleApi} {ctx : Ctx} {prof : List Byte} {band : Band}

/-- The elements for a link that is read as far as its entry in the RNR. -/
def linkIe (wiphy : Wiphy χ ω) (ctx : Ctx) (prof : List Byte) : NewIe :=
  newIe ctx (prof.drop (profileOff prof + 2)) (linkId prof) (ctx.rnrInfo (linkId prof)).paramChCount
    (if nstrOnly wiphy (ctx.rnrInfo (linkId prof)).useFor then 0 else (ctx.rnrInfo (linkId prof)).useFor)

/-- What is handed over for a profile, up to the reasons. -/
def report (wiphy : Wiphy χ ω) (ctx : Ctx) (prof : List Byte) (band : Band) (ie : List Byte) (reasons : BitVec 64) : InformData χ where
  channel := wiphy.getChannelKhz (ieee80211ChannelToFreqKhz (ctx.rnrInfo (linkId prof)).apInfo.channel.toNat band)
  bssid := (prof.drop 3).take 6
  tsf := ctx.tsf + le64 ((prof.drop 3).drop 8)
  capability := le16 (prof.drop (profileOff prof))
  beaconInterval := le16 ((prof.drop 3).drop 6)
  ie := ie
  useFor := if nstrOnly wiphy (ctx.rnrInfo (linkId prof)).useFor then 0 else (ctx.rnrInfo (linkId prof)).useFor
  cannotUseReasons := reasons

/-- The reasons after a profile that is read as far as its entry in the RNR. -/
def reasonsFor (wiphy : Wiphy χ ω) (ctx : Ctx) (prof : List Byte) (reasons : BitVec 64) : BitVec 64 :=
  if nstrOnly wiphy (ctx.rnrInfo (linkId prof)).useFor then NL80211_BSS_CANNOT_USE_NSTR_NONPRIMARY else reasons

/-- **What the body does with a profile**: of the data before, only the reasons matter. -/
theorem staBody_cases (wiphy : Wiphy χ ω) (ctx : Ctx) (hsize : mleApi.basicStaProfSizeOk prof = true) (hcomplete : completeProfile prof = true) (data : InformData χ) :
    ((∀ band, ¬ ReachesRnr mleApi ctx prof band) ∧
      ∃ d, staBody wiphy ctx data prof = some (d, false) ∧ d.cannotUseReasons = data.cannotUseReasons) ∨
    ∃ band, ReachesRnr mleApi ctx prof band ∧
      match linkIe wiphy ctx prof with
      | .skip => ∃ d, staBody wiphy ctx data prof = some (d, false) ∧ d.cannotUseReasons = reasonsFor wiphy ctx prof data.cannotUseReasons
      | .outside => staBody wiphy ctx data prof = none
      | .elements ie =>
        staBody wiphy ctx data prof = some (report wiphy ctx prof band ie (reasonsFor wiphy ctx prof data.cannotUseReasons), true) := by
  unfold staBody
  by_cases hfields : fieldsPresent prof = false
  · rw [if_pos hfields]
    exact .inl ⟨fun band h => absurd (hfields.symm.trans h.2.2.1) Bool.noConfusion, _, rfl, rfl⟩
  · rw [if_neg hfields]
    dsimp only
    by_cases hshort : prof.length < profileOff prof + 2
    · rw [if_pos hshort]
      exact .inl ⟨fun band h => absurd h.2.2.2.1 (Nat.not_le.mpr hshort), _, rfl, rfl⟩
    · rw [if_neg hshort]
      by_cases huse : (ctx.rnrInfo (linkId prof)).useFor = 0
      · rw [if_pos huse]
        exact .inl ⟨fun band h => absurd huse h.2.2.2.2.1, _, rfl, rfl⟩
      · rw [if_neg huse]
        cases hband : ieee80211OperatingClassToBand (ctx.rnrInfo (linkId prof)).apInfo.opClass.toNat with
        | none => exact .inl ⟨fun band h => absurd (hband.symm.trans h.2.2.2.2.2) nofun, _, rfl, rfl⟩
        | some band =>
          refine .inr ⟨band, ⟨hsize, hcomplete, by simpa using hfields, Nat.not_lt.mp hshort, huse, hband⟩, ?_⟩
          unfold linkIe reasonsFor report
          dsimp only
          generalize newIe ctx _ _ _ _ = new
          cases new with
          | skip =>
            refine ⟨_, rfl, ?_⟩
            split <;> rfl
          | outside => rfl
          | elements ie =>
            dsimp only
            cases nstrOnly wiphy (ctx.rnrInfo (linkId prof)).useFor <;> rfl

theorem ReachesRnr.unique {band' : Band} (h : ReachesRnr mleApi ctx prof band) (h' : ReachesRnr mleApi ctx prof band') : band = band' :=
  Option.some.inj (h.2.2.2.2.2.symm.trans h'.2.2.2.2.2)

structure CtxOk (ctx : Ctx) : Prop where
  genNewIe : ∀ profile, (ctx.genNewIe profile).1 ≠ 0 → (ctx.genNewIe profile).1 = (ctx.genNewIe profile).2.length
  common : 11 ≤ ctx.commonLen
  mlBytes : ctx.mlBytes.length = 2 + ctx.commonLen

/-- **No write goes past the buffer**, and the elements fit. -/
theorem newIe_fits (h : CtxOk ctx) (profile : List Byte) (linkId : BitVec 4) (paramChCount : Byte) (useFor : BitVec 8) :
    newIe ctx profile linkId paramChCount useFor ≠ .outside ∧
      ∀ ie, newIe ctx profile linkId paramChCount useFor = .elements ie → ie.length ≤ IEEE80211_MAX_DATA_LEN := by
  unfold newIe
  dsimp only
  have hcommon := h.common
  by_cases hzero : (ctx.genNewIe profile).1 = 0
  · rw [if_pos hzero]
    exact ⟨nofun, fun ie h => nomatch h⟩
  · rw [if_neg hzero]
    have hgen := h.genNewIe profile hzero
    by_cases hlong : IEEE80211_MAX_DATA_LEN < (ctx.genNewIe profile).1 + 3 + 2 + ctx.commonLen
    · rw [if_pos hlong]
      exact ⟨nofun, fun ie h => nomatch h⟩
    · rw [if_neg hlong, if_neg (by omega)]
      generalize hie : ((ctx.genNewIe profile).2 ++
        [WLAN_EID_EXTENSION, BitVec.ofNat 8 (1 + 2 + ctx.commonLen), WLAN_EID_EXT_EHT_MULTI_LINK] ++ ctx.mlBytes) = ie
      have hlen : ie.length = (ctx.genNewIe profile).1 + 3 + (2 + ctx.commonLen) := by
        rw [← hie, List.length_append, List.length_append, h.mlBytes, hgen]
        rfl
      cases ctx.reporterRnr with
      | none =>
        refine ⟨nofun, fun ie' heq => ?_⟩
        cases heq
        rw [List.length_set, List.length_set]
        omega
      | some rnr =>
        dsimp only
        by_cases huse : useFor &&& NL80211_BSS_USE_FOR_NORMAL = 0
        · rw [if_pos huse]
          refine ⟨nofun, fun ie' heq => ?_⟩
          cases heq
          rw [List.length_set, List.length_set]
          omega
        · rw [if_neg huse]
          split
          · exact ⟨nofun, fun ie h => nomatch h⟩
          · rename_i hroom
            refine ⟨nofun, fun ie' heq => ?_⟩
            cases heq
            rw [List.length_append]
            exact Nat.not_lt.mp hroom

/-! ## The loop -/

/-- **What is handed over for a profile**, given the reasons before it, and the profiles. -/
def Handed (wiphy : Wiphy χ ω) (mleApi : MleApi) (ctx : Ctx) (before : List (List Byte)) (reasons : BitVec 64) (prof : List Byte)
    (d : InformData χ) : Prop :=
  ∃ band ie left, ReachesRnr mleApi ctx prof band ∧ linkIe wiphy ctx prof = .elements ie ∧
    d = report wiphy ctx prof band ie (reasonsFor wiphy ctx prof left) ∧
      ((∀ q ∈ before, ¬ OwnReason wiphy mleApi ctx q ∧ ¬ PowerReason wiphy mleApi ctx q) → left = reasons) ∧
        (reasons ≠ 0 ∨ (∃ q ∈ before, OwnReason wiphy mleApi ctx q ∨ PowerReason wiphy mleApi ctx q) → left ≠ 0)

/-- A profile that leaves the reasons `reasons'` behind. -/
theorem Handed.cons {before : List (List Byte)} {reasons reasons' : BitVec 64} {q : List Byte} {d : InformData χ}
    (h : Handed wiphy mleApi ctx before reasons' prof d)
    (hnone : ¬ OwnReason wiphy mleApi ctx q ∧ ¬ PowerReason wiphy mleApi ctx q → reasons' = reasons)
    (hsome : reasons ≠ 0 ∨ OwnReason wiphy mleApi ctx q ∨ PowerReason wiphy mleApi ctx q → reasons' ≠ 0) :
    Handed wiphy mleApi ctx (q :: before) reasons prof d := by
  obtain ⟨band, ie, left, hreach, hie, hd, hkept, hleft⟩ := h
  refine ⟨band, ie, left, hreach, hie, hd, fun hall => ?_, fun hor => ?_⟩
  · rw [List.forall_mem_cons] at hall
    rw [hkept hall.2, hnone hall.1]
  · apply hleft
    rcases hor with hne | ⟨q', hq', hbad⟩
    · exact .inl (hsome (.inl hne))
    · rcases List.mem_cons.mp hq' with rfl | hq'
      · exact .inl (hsome (.inr hbad))
      · exact .inr ⟨q', hq', hbad⟩

/-- **The loop**: it ends, and hands over what `Handed` says. -/
theorem staLoop_spec (wiphy : Wiphy χ ω) (mleApi : MleApi) (hctx : CtxOk ctx) (profs : List (List Byte)) : ∀ (i : Nat) (seenLinks : BitVec 16) (data : InformData χ) (w : ω),
    ∃ r, staLoop wiphy mleApi ctx profs i seenLinks data w = some r ∧
      ∀ x ∈ r, ∃ j, j < profs.length ∧ x.1 = i + j ∧
        Handed wiphy mleApi ctx (profs.take j) data.cannotUseReasons (profs.getD j []) x.2 := by
  induction profs with
  | nil => exact fun _ _ _ _ => ⟨[], rfl, fun x hx => nomatch hx⟩
  | cons prof profs ih =>
    intro i seenLinks data w
    -- what is handed over for the profiles behind, given the reasons that this one leaves
    have hbehind : ∀ {r : List (Nat × InformData χ)} {reasons' : BitVec 64},
        (∀ x ∈ r, ∃ j, j < profs.length ∧ x.1 = i + 1 + j ∧ Handed wiphy mleApi ctx (profs.take j) reasons' (profs.getD j []) x.2) →
        (¬ OwnReason wiphy mleApi ctx prof ∧ ¬ PowerReason wiphy mleApi ctx prof → reasons' = data.cannotUseReasons) →
        (data.cannotUseReasons ≠ 0 ∨ OwnReason wiphy mleApi ctx prof ∨ PowerReason wiphy mleApi ctx prof → reasons' ≠ 0) →
        ∀ x ∈ r, ∃ j, j < (prof :: profs).length ∧ x.1 = i + j ∧
          Handed wiphy mleApi ctx ((prof :: profs).take j) data.cannotUseReasons ((prof :: profs).getD j []) x.2 := by
      intro r reasons' hr hnone hsome x hx
      obtain ⟨j, hlt, hj, hhanded⟩ := hr x hx
      refine ⟨j + 1, Nat.succ_lt_succ hlt, by omega, ?_⟩
      rw [List.take_succ_cons, List.getD_cons_succ]
      exact hhanded.cons hnone hsome
    have hskip : (∀ band, ¬ ReachesRnr mleApi ctx prof band) →
        ¬ OwnReason wiphy mleApi ctx prof ∧ ¬ PowerReason wiphy mleApi ctx prof := by
      intro hno
      exact ⟨fun h => h.1.elim hno, fun ⟨band, _, h, _⟩ => hno band h⟩
    have hquiet : ¬ OwnReason wiphy mleApi ctx prof ∧ ¬ PowerReason wiphy mleApi ctx prof →
        data.cannotUseReasons ≠ 0 ∨ OwnReason wiphy mleApi ctx prof ∨ PowerReason wiphy mleApi ctx prof → data.cannotUseReasons ≠ 0 := by
      rintro ⟨hown, hpower⟩ (h | h | h)
      · exact h
      · exact absurd h hown
      · exact absurd h hpower
    unfold staLoop
    by_cases hsize : mleApi.basicStaProfSizeOk prof = false
    · have hno := hskip fun band h => absurd (hsize.symm.trans h.1) Bool.noConfusion
      rw [if_pos hsize]
      obtain ⟨r, hr, hall⟩ := ih (i + 1) seenLinks data w
      exact ⟨r, hr, hbehind hall (fun _ => rfl) (hquiet hno)⟩
    · rw [if_neg hsize]
      by_cases hcomplete : completeProfile prof = false
      · have hno := hskip fun band h => absurd (hcomplete.symm.trans h.2.1) Bool.noConfusion
        rw [if_pos hcomplete]
        obtain ⟨r, hr, hall⟩ := ih (i + 1) seenLinks data w
        exact ⟨r, hr, hbehind hall (fun _ => rfl) (hquiet hno)⟩
      · rw [if_neg hcomplete]
        split
        · exact ⟨[], rfl, fun x hx => nomatch hx⟩
        · dsimp only
          rw [Bool.not_eq_false] at hsize hcomplete
          rcases staBody_cases wiphy ctx hsize hcomplete data with
            ⟨hno, d, hbody, hreasons⟩ | ⟨band, hreach, hbody⟩
          · rw [hbody]
            obtain ⟨r, hr, hall⟩ := ih (i + 1) (seenLinks ||| BitVec.twoPow 16 (linkId prof).toNat) d w
            rw [hreasons] at hall
            exact ⟨r, hr, hbehind hall (fun _ => rfl) (hquiet (hskip hno))⟩
          · have hown : OwnReason wiphy mleApi ctx prof ↔ nstrOnly wiphy (ctx.rnrInfo (linkId prof)).useFor = true :=
              ⟨fun h => h.2, fun h => ⟨⟨band, hreach⟩, h⟩⟩
            cases hie : linkIe wiphy ctx prof with
            | skip =>
              rw [hie] at hbody
              obtain ⟨d, hbody, hreasons⟩ := hbody
              have hpower : ¬ PowerReason wiphy mleApi ctx prof := fun ⟨_, _, _, h, _⟩ => nomatch hie.symm.trans h
              rw [hbody]
              obtain ⟨r, hr, hall⟩ := ih (i + 1) (seenLinks ||| BitVec.twoPow 16 (linkId prof).toNat) d w
              rw [hreasons] at hall
              refine ⟨r, hr, hbehind hall (fun h => ?_) fun h => ?_⟩
              · exact if_neg fun hn => h.1 (hown.mpr hn)
              · unfold reasonsFor
                by_cases hn : nstrOnly wiphy (ctx.rnrInfo (linkId prof)).useFor = true
                · rw [if_pos hn]
                  decide
                · rw [if_neg hn]
                  exact hquiet ⟨fun h => hn (hown.mp h), hpower⟩ h
            | outside => exact absurd hie (newIe_fits hctx _ _ _ _).1
            | elements ie =>
              rw [hie] at hbody
              have hpower : PowerReason wiphy mleApi ctx prof ↔
                  wiphy.powerMismatch (wiphy.getChannelKhz
                    (ieee80211ChannelToFreqKhz (ctx.rnrInfo (linkId prof)).apInfo.channel.toNat band)) ie = true := by
                constructor
                · rintro ⟨band', ie', hreach', hie', hmis⟩
                  obtain rfl := hreach.unique hreach'
                  cases hie.symm.trans hie'
                  exact hmis
                · exact fun hmis => ⟨band, ie, hreach, hie, hmis⟩
              have hfirst : Handed wiphy mleApi ctx ((prof :: profs).take 0) data.cannotUseReasons ((prof :: profs).getD 0 [])
                  (report wiphy ctx prof band ie (reasonsFor wiphy ctx prof data.cannotUseReasons)) := by
                refine ⟨band, ie, data.cannotUseReasons, hreach, hie, rfl, fun _ => rfl, ?_⟩
                rintro (h | ⟨q, hq, _⟩)
                · exact h
                · exact nomatch hq
              rw [hbody]
              dsimp only
              generalize hd : report wiphy ctx prof band ie (reasonsFor wiphy ctx prof data.cannotUseReasons) = d at hfirst ⊢
              cases hinform : wiphy.inform w d with
              | mk bss w' =>
                cases bss with
                | false =>
                  refine ⟨_, rfl, fun x hx => ⟨0, Nat.succ_pos _, ?_, ?_⟩⟩
                  · rw [List.mem_singleton.mp hx]
                    rfl
                  · rw [List.mem_singleton.mp hx]
                    exact hfirst
                | true =>
                  obtain ⟨r, hr, hall⟩ := ih (i + 1) (seenLinks ||| BitVec.twoPow 16 (linkId prof).toNat) (wiphy.mark d) w'
                  dsimp only
                  rw [hr]
                  refine ⟨_, rfl, fun x hx => ?_⟩
                  rcases List.mem_cons.mp hx with rfl | hx
                  · exact ⟨0, Nat.succ_pos _, rfl, hfirst⟩
                  · refine hbehind hall (fun h => ?_) (fun h => ?_) x hx
                    · have hmark : wiphy.mark d = d := by
                        rw [← hd]
                        exact if_neg fun hmis => h.2 (hpower.mpr hmis)
                      rw [hmark, ← hd]
                      exact if_neg fun hn => h.1 (hown.mpr hn)
                    · unfold Wiphy.mark
                      subst hd
                      split
                      · exact (by decide : NL80211_BSS_CANNOT_USE_6GHZ_PWR_MISMATCH ≠ 0)
                      · rename_i hmis
                        show reasonsFor wiphy ctx prof data.cannotUseReasons ≠ 0
                        unfold reasonsFor
                        by_cases hn : nstrOnly wiphy (ctx.rnrInfo (linkId prof)).useFor = true
                        · rw [if_pos hn]
                          decide
                        · rw [if_neg hn]
                          exact hquiet ⟨fun h => hn (hown.mp h), fun h => hmis (hpower.mp h)⟩ h

/-- A profile alone is handed over, whatever becomes of it. -/
theorem staLoop_alone {ie : List Byte} (hreach : ReachesRnr mleApi ctx prof band) (hie : linkIe wiphy ctx prof = .elements ie) (w : ω) :
    ∃ r, staLoop wiphy mleApi ctx [prof] 0 0 .zero w = some r ∧ (0, report wiphy ctx prof band ie (reasonsFor wiphy ctx prof 0)) ∈ r := by
  have hbody : staBody wiphy ctx .zero prof = some (report wiphy ctx prof band ie (reasonsFor wiphy ctx prof 0), true) := by
    rcases staBody_cases wiphy ctx hreach.1 hreach.2.1 .zero with ⟨hno, _⟩ | ⟨band', hreach', hbody⟩
    · exact absurd hreach (hno band)
    · obtain rfl := hreach.unique hreach'
      rw [hie] at hbody
      exact hbody
  have hseen : (0 : BitVec 16).getLsbD (linkId prof).toNat = false := BitVec.getLsbD_zero
  unfold staLoop
  rw [hreach.1, hreach.2.1, hseen, if_neg Bool.noConfusion, if_neg Bool.noConfusion, if_neg Bool.noConfusion, hbody]
  dsimp only
  cases wiphy.inform w (report wiphy ctx prof band ie (reasonsFor wiphy ctx prof 0)) with
  | mk bss w' =>
    cases bss with
    | false => exact ⟨_, rfl, List.mem_singleton_self _⟩
    | true => exact ⟨_, rfl, List.mem_cons_self⟩

/-! ## Frames -/

variable {api : ElementApi} {frame frame' : Frame}

theorem ctxOk (hok : mleApi.typeOk frame.mlElem frame.mlLen = true) (hreq : requiredPresent (mlControl frame.mlElem) = true) :
    CtxOk (frame.ctx api mleApi) where
  genNewIe profile := (genNewIe_fits api frame.ie profile IEEE80211_MAX_DATA_LEN).2
  common := mleApi.typeOk_common _ _ hok hreq
  mlBytes := by
    show ((List.range _).map _).length = _
    rw [List.length_map, List.length_range]
    rfl

theorem rnrElements_ie (frame : Frame) : rnrElements api frame.ie =
    (frame.before.filter fun e => e.id = WLAN_EID_REDUCED_NEIGHBOR_REPORT) ++
      frame.after.filter fun e => e.id = WLAN_EID_REDUCED_NEIGHBOR_REPORT := by
  obtain ⟨e, frags, hmle, hid, -, -, hfrags⟩ := frame.isMle.exists_cons
  have hnone : frame.mle.filter (fun e => e.id = WLAN_EID_REDUCED_NEIGHBOR_REPORT) = [] := by
    rw [hmle, List.filter_eq_nil_iff]
    intro f hf
    rcases List.mem_cons.mp hf with rfl | hf
    · rw [hid]
      decide
    · rw [hfrags f hf]
      decide
  unfold rnrElements Frame.ie
  rw [api.forEachElement_eq _ _ frame.rest_none, List.filter_append, List.filter_append, hnone, List.nil_append]

/-- **The loop uses the same of two frames** that differ in what the Multi-Link element holds. -/
theorem ctx_eq (h : SameCommon frame frame') (hok : mleApi.typeOk frame.mlElem frame.mlLen = true)
    (hreq : requiredPresent (mlControl frame.mlElem) = true) (hok' : mleApi.typeOk frame'.mlElem frame'.mlLen = true) :
    frame'.ctx api mleApi = frame.ctx api mleApi := by
  have hlen : mlCommonLen frame'.mlElem = mlCommonLen frame.mlElem := by
    have hcommon := mleApi.typeOk_common _ _ hok hreq
    unfold mlCommonLen
    rw [h.common 2 (by omega)]
  have hid : mleApi.getMldId frame'.mlElem = mleApi.getMldId frame.mlElem :=
    (mleApi.getMldId_congr _ _ _ _ hok hok' fun i hi => (h.common i hi).symm).symm
  have hgen : ∀ profile, cfg80211GenNewIe api frame'.ie profile IEEE80211_MAX_DATA_LEN =
      cfg80211GenNewIe api frame.ie profile IEEE80211_MAX_DATA_LEN := by
    intro profile
    unfold Frame.ie
    rw [h.before, h.after, h.rest]
    exact genNewIe_swap frame'.isMle frame.isMle frame.before frame.after frame.rest_none profile _
  have hrnr : cfg80211RnrInfoForMldAp api frame'.ie (mleApi.getMldId frame'.mlElem) =
      cfg80211RnrInfoForMldAp api frame.ie (mleApi.getMldId frame.mlElem) := by
    unfold cfg80211RnrInfoForMldAp cfg80211IterRnr
    rw [hid, rnrElements_ie, rnrElements_ie, h.before, h.after]
  have hbytes : (List.range (2 + mlCommonLen frame.mlElem)).map frame'.mlElem =
      (List.range (2 + mlCommonLen frame.mlElem)).map frame.mlElem :=
    List.map_congr_left fun i hi => h.common i (List.mem_range.mp hi)
  unfold Frame.ctx
  rw [hrnr, hlen, hbytes, h.tsf, h.reporterRnr]
  simp only [hgen]

theorem SameCommon.alone (frame : Frame) (profs : Option (List (List Byte))) :
    SameCommon frame { frame with staProf := profs, alloc := true } := ⟨rfl, rfl, rfl, rfl, fun _ _ => rfl, rfl⟩

/-- **Profiles are reported independently**, for every frame: no write goes past the buffer, and what is handed over for a profile is right
exactly when it has a reason of its own not to use the BSS, or no profile before it has left one. -/
theorem linkRight_iff (api : ElementApi) (mleApi : MleApi) (wiphy : Wiphy χ ω) (w : ω) (frame : Frame) :
    ∃ r, cfg80211ParseMlElemStaData api mleApi wiphy w frame = some r ∧
      ∀ x ∈ r, (LinkRight api mleApi wiphy frame x.1 x.2 ↔ NoReasonLeft wiphy mleApi (frame.ctx api mleApi) frame x.1) := by
  unfold cfg80211ParseMlElemStaData
  by_cases hok : mleApi.typeOk frame.mlElem frame.mlLen = false
  · rw [if_pos hok]
    exact ⟨[], rfl, fun x hx => nomatch hx⟩
  · rw [if_neg hok]
    by_cases hreq : requiredPresent (mlControl frame.mlElem) = false
    · rw [if_pos hreq]
      exact ⟨[], rfl, fun x hx => nomatch hx⟩
    · rw [if_neg hreq]
      cases hprof : frame.staProf with
      | none => exact ⟨[], rfl, fun x hx => nomatch hx⟩
      | some profs =>
        dsimp only
        by_cases halloc : frame.alloc = true
        · rw [if_pos halloc]
          rw [Bool.not_eq_false] at hok hreq
          have hctx : CtxOk (frame.ctx api mleApi) := ctxOk hok hreq
          obtain ⟨r, hr, hall⟩ := staLoop_spec wiphy mleApi hctx profs 0 0 .zero w
          refine ⟨r, hr, fun x hx => ?_⟩
          obtain ⟨j, hlt, hj, band, ie, left, hreach, hie, hdata, hkept, hleft⟩ := hall x hx
          rw [Nat.zero_add] at hj
          have hown : frame.prof x.1 = profs.getD j [] := by
            unfold Frame.prof
            rw [hprof, hj]
            rfl
          have htake : (frame.staProf.getD []).take x.1 = profs.take j := by
            rw [hprof, hj]
            rfl
          generalize profs.getD j [] = prof at hreach hie hdata hown
          have hnstr : OwnReason wiphy mleApi (frame.ctx api mleApi) prof ↔
              nstrOnly wiphy ((frame.ctx api mleApi).rnrInfo (linkId prof)).useFor = true :=
            ⟨And.right, fun h => ⟨⟨band, hreach⟩, h⟩⟩
          unfold NoReasonLeft
          rw [hown, htake]
          constructor
          · intro h
            -- the same profile alone
            obtain ⟨r', hr', hmem⟩ := staLoop_alone hreach hie w
            have hrun : cfg80211ParseMlElemStaData api mleApi wiphy w { frame with staProf := some [prof], alloc := true } = some r' := by
              unfold cfg80211ParseMlElemStaData
              rw [if_neg (by rw [hok]; exact Bool.noConfusion), if_neg (by rw [hreq]; exact Bool.noConfusion)]
              exact hr'
            have hsame := h.independent _ w r' (SameCommon.alone frame _) (by rw [hown]) hrun _ hmem
            have hreasons := congrArg InformData.cannotUseReasons (hsame.trans hdata)
            by_cases hn : OwnReason wiphy mleApi (frame.ctx api mleApi) prof
            · exact .inl hn
            · refine .inr fun q hq => ?_
              change reasonsFor _ _ _ _ = reasonsFor _ _ _ _ at hreasons
              unfold reasonsFor at hreasons
              rw [if_neg (fun h => hn (hnstr.mpr h)), if_neg (fun h => hn (hnstr.mpr h))] at hreasons
              exact not_or.mp fun hbad => hleft (.inr ⟨q, hq, hbad⟩) hreasons.symm
          · intro hno
            have hreasons : reasonsFor wiphy (frame.ctx api mleApi) prof left = reasonsFor wiphy (frame.ctx api mleApi) prof 0 := by
              rcases hno with hn | hnone
              · unfold reasonsFor
                rw [if_pos (hnstr.mp hn), if_pos (hnstr.mp hn)]
              · rw [hkept hnone]
                rfl
            refine ⟨fun frame' w' r' hsame hone hrun y hy => ?_, ?_⟩
            · unfold cfg80211ParseMlElemStaData at hrun
              by_cases hok' : mleApi.typeOk frame'.mlElem frame'.mlLen = false
              · rw [if_pos hok'] at hrun
                cases hrun
                exact nomatch hy
              · rw [if_neg hok'] at hrun
                by_cases hreq' : requiredPresent (mlControl frame'.mlElem) = false
                · rw [if_pos hreq'] at hrun
                  cases hrun
                  exact nomatch hy
                · rw [if_neg hreq', hone] at hrun
                  dsimp only at hrun
                  by_cases halloc' : frame'.alloc = true
                  · rw [if_pos halloc', ctx_eq hsame hok hreq (by simpa using hok'), hown] at hrun
                    obtain ⟨r'', hr'', hall'⟩ := staLoop_spec wiphy mleApi hctx [prof] 0 0 .zero w'
                    cases hr''.symm.trans hrun
                    obtain ⟨j', hlt', -, band', ie', left', hreach', hie', hdata', hkept', -⟩ := hall' y hy
                    obtain rfl : j' = 0 := Nat.lt_one_iff.mp hlt'
                    have hleft' : left' = 0 := hkept' fun q hq => nomatch hq
                    obtain rfl := hreach.unique hreach'
                    cases hie.symm.trans hie'
                    rw [hdata, hdata', hreasons, hleft']
                    rfl
                  · rw [if_neg halloc'] at hrun
                    cases hrun
                    exact nomatch hy
            · rw [hdata]
              exact (newIe_fits hctx _ _ _ _).2 ie hie
        · rw [if_neg halloc]
          exact ⟨[], rfl, fun x hx => nomatch hx⟩

/-! ## The kernel headers -/

def commonRequired (control : BitVec 16) : Nat :=
  7 + (if control.getLsbD 4 then 1 else 0) + (if control.getLsbD 5 then 1 else 0) + (if control.getLsbD 6 then 2 else 0) +
    (if control.getLsbD 7 then 2 else 0) + (if control.getLsbD 8 then 2 else 0) + (if control.getLsbD 9 then 1 else 0) +
      (if control.getLsbD 10 then 2 else 0)

def mldIdOff (control : BitVec 16) : Nat :=
  2 + 7 + (if control.getLsbD 4 then 1 else 0) + (if control.getLsbD 5 then 1 else 0) + (if control.getLsbD 6 then 2 else 0) +
    (if control.getLsbD 7 then 2 else 0) + (if control.getLsbD 8 then 2 else 0)

/-- What the STA info of a profile has to hold. -/
def staInfoRequired (control : BitVec 16) : Nat :=
  1 + (if control.getLsbD 5 then 6 else 0) + (if control.getLsbD 6 then 2 else 0) + (if control.getLsbD 7 then 8 else 0) +
    (if control.getLsbD 8 then 2 else 0) + (if control.getLsbD 4 && control.getLsbD 9 then if control.getLsbD 10 then 2 else 1 else 0) +
      (if control.getLsbD 11 then 1 else 0)

def MleApi.linux : MleApi where
  typeOk ml len := decide (2 ≤ len) && decide ((mlControl ml).setWidth 3 = 0) && decide (2 + commonRequired (mlControl ml) ≤ len) &&
    decide (commonRequired (mlControl ml) ≤ mlCommonLen ml)
  getMldId ml := if (mlControl ml).getLsbD 9 then ml (mldIdOff (mlControl ml)) else 0
  basicStaProfSizeOk prof := decide (3 ≤ prof.length) && decide (staInfoRequired (control prof) ≤ (prof.getD 2 0).toNat) &&
    decide (3 + (prof.getD 2 0).toNat - 1 ≤ prof.length)
  typeOk_common ml len hok hreq := by
    unfold requiredPresent at hreq
    simp only [Bool.and_eq_true, decide_eq_true_eq] at hok hreq
    have hle := hok.2
    unfold commonRequired at hle
    rw [if_pos hreq.1.1, if_pos hreq.1.2, if_pos hreq.2] at hle
    omega
  getMldId_congr ml ml' len len' hok hok' hsame := by
    simp only [Bool.and_eq_true, decide_eq_true_eq] at hok
    have hcontrol : mlControl ml' = mlControl ml := by
      unfold mlControl
      rw [hsame 0 (by omega), hsame 1 (by omega)]
    rw [hcontrol]
    by_cases hid : (mlControl ml).getLsbD 9 = true
    · rw [if_pos hid, if_pos hid]
      apply hsame
      have hle := hok.2
      unfold commonRequired at hle
      rw [if_pos hid] at hle
      unfold mldIdOff
      omega
    · rw [if_neg hid, if_neg hid]

/-! ## Two links -/

/-- A profile with nothing but what has to be there, of a link. -/
def plainProfile (link : Byte) : List Byte := [0xf0 ||| link, 0, 17] ++ List.replicate 18 0

/-- The bytes of the Multi-Link element: the link of the reporter is 0. -/
def plainMle : List Byte := [0x30, 0x01, 11, 2, 0, 0, 0, 0, 1, 0, 0, 0, 0]

/-- A frame with the profiles of link 1, of which the RNR has only the MLD parameters, and link 2, of which it has all. -/
def twoLinks (profs : List (List Byte)) : Frame where
  tsf := 0
  before := [⟨201, [1, 3, 81, 6, 0, 1, 0] ++ [0, 16, 81, 11, 255] ++ List.replicate 12 0 ++ [0, 2, 0], by decide⟩]
  mle := [⟨WLAN_EID_EXTENSION, WLAN_EID_EXT_EHT_MULTI_LINK :: plainMle, by decide⟩]
  after := []
  rest := []
  isMle := ⟨_, [], rfl, rfl, rfl, by decide, fun f hf => nomatch hf⟩
  rest_none := not_startsElement_nil
  mlElem i := plainMle.getD i 0
  mlLen := 13
  staProf := some profs
  alloc := true
  reporterRnr := none

/-- A wiphy that does not support NSTR non-primary links. -/
def plainWiphy : Wiphy Nat Unit where
  getChannelKhz freq := some freq
  supportsNstr := false
  powerMismatch _ _ := false
  inform w _ := (true, w)

/-- Link 2 cannot be used, for the reason of link 1; alone, it can. -/
theorem reason_of_link_before : ∃ r x, cfg80211ParseMlElemStaData .linux .linux plainWiphy () (twoLinks [plainProfile 1, plainProfile 2]) =
    some r ∧ x ∈ r ∧ x.1 = 1 ∧ x.2.cannotUseReasons = NL80211_BSS_CANNOT_USE_NSTR_NONPRIMARY ∧
      ¬ LinkRight .linux .linux plainWiphy (twoLinks [plainProfile 1, plainProfile 2]) x.1 x.2 := by
  have hboth : (cfg80211ParseMlElemStaData .linux .linux plainWiphy () (twoLinks [plainProfile 1, plainProfile 2])).map
      (·.map fun x => (x.1, x.2.cannotUseReasons)) = some [(0, 1), (1, 1)] := by decide
  have halone : (cfg80211ParseMlElemStaData .linux .linux plainWiphy () (twoLinks [plainProfile 2])).map
      (·.map fun x => (x.1, x.2.cannotUseReasons)) = some [(0, 0)] := by decide
  obtain ⟨r, hr, hmap⟩ := Option.map_eq_some_iff.mp hboth
  obtain ⟨r', hr', hmap'⟩ := Option.map_eq_some_iff.mp halone
  match r, r', hmap, hmap' with
  | [x, y], [z], hmap, hmap' =>
    simp only [List.map_cons, List.map_nil, List.cons.injEq, Prod.mk.injEq, and_true] at hmap hmap'
    refine ⟨_, y, hr, by simp, hmap.2.1, hmap.2.2, fun h => ?_⟩
    have hsame := h.independent (twoLinks [plainProfile 2]) () _ ⟨rfl, rfl, rfl, rfl, fun _ _ => rfl, rfl⟩ (by rw [hmap.2.1]; rfl) hr' z
      (List.mem_singleton_self _)
    have hreasons := congrArg InformData.cannotUseReasons hsame
    rw [hmap'.2, hmap.2.2] at hreasons
    exact absurd hreasons (by decide)

end Wireless.MlSta
