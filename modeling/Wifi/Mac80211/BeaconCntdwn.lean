import Mathlib.Tactic.SplitIfs
import Wifi.Lib.Runs
import Wifi.Linux.Elements

/-!
# The countdown of a beacon (`linux/net/mac80211/tx.c`, `cfg.c`, `linux/net/wireless/nl80211.c`)

* `BeaconData`, `ProbeResp`, `Link` — the templates, with the offsets of their counters.
* `nl80211ParseCounterOffsets`, `ieee80211AssignBeacon`, `ieee80211SetProbeResp` — how offsets get installed.
* `ieee80211SetBeaconCntdwn`, `beaconUpdateCntdwn`, `ieee80211BeaconCntdwnIsComplete` — the countdown; an access beyond a buffer gives nothing.
* `Op`, `Step` — what userspace and the driver do; `CntdwnRight` — what should hold of the next write, and of a run of beacons.
* `cntdwnRight_iff` — it does, but for a probe response without an offset, whose first byte is written.
-/

namespace Mac80211.BeaconCntdwn

/-! ## The templates -/

abbrev IEEE80211_MAX_CNTDWN_COUNTERS_NUM : Nat := 2

/-- `u16 cntdwn_counter_offsets[IEEE80211_MAX_CNTDWN_COUNTERS_NUM]` -/
abbrev Offsets := Fin IEEE80211_MAX_CNTDWN_COUNTERS_NUM → BitVec 16

structure BeaconData where
  head : List Byte
  tail : List Byte
  cntdwnCounterOffsets : Offsets
  cntdwnCurrentCounter : Byte

structure ProbeResp where
  data : List Byte
  cntdwnCounterOffsets : Offsets

/-- The interface types that have countdowns. -/
inductive Iftype where
  | ap | adhoc | mesh
  deriving DecidableEq

/-- A link: its interface, the templates, and whether a channel switch is active. -/
structure Link where
  iftype : Iftype
  running : Bool
  csaActive : Bool
  beacon : Option BeaconData
  probeResp : Option ProbeResp

/-- The part of the beacon that has the counters. -/
def BeaconData.counterData (b : BeaconData) : Iftype → List Byte
  | .ap => b.tail
  | .adhoc | .mesh => b.head

def BeaconData.otherData (b : BeaconData) : Iftype → List Byte
  | .ap => b.head
  | .adhoc | .mesh => b.tail

def BeaconData.setCounterData (b : BeaconData) (t : Iftype) (data : List Byte) : BeaconData :=
  match t with
  | .ap => { b with tail := data }
  | .adhoc | .mesh => { b with head := data }

/-! ## Offsets get installed -/

/-- Offsets that are copied to the front of an array of zeroes. -/
def copyOffsets (offsets : List (BitVec 16)) : Offsets := fun i => offsets.getD i 0

/-- **`nl80211_parse_counter_offsets`**: the offsets are in the data, and have the count; without an attribute there are none. -/
def nl80211ParseCounterOffsets (data : List Byte) (firstCount : Byte) : Option (List (BitVec 16)) → Option (List (BitVec 16))
  | none => some []
  | some offsets =>
    if offsets = [] then none
    else if offsets.all fun offset => data[offset.toNat]? = some firstCount then some offsets
    else none

/-- `struct cfg80211_beacon_data` -/
structure BeaconParams where
  head : Option (List Byte)
  tail : Option (List Byte)
  probeResp : Option (List Byte)

/-- `struct ieee80211_csa_settings`, or `struct ieee80211_color_change_settings` with one offset each. -/
structure CntdwnSettings where
  counterOffsetsBeacon : List (BitVec 16)
  counterOffsetsPresp : List (BitVec 16)
  count : Byte

/-- **`ieee80211_set_probe_resp`**: without a new one the old one stays. -/
def ieee80211SetProbeResp (s : Link) (resp : Option (List Byte)) (settings : Option CntdwnSettings) : Link :=
  match resp with
  | none => s
  | some data =>
    if data = [] then s
    else
      let new : ProbeResp :=
        { data := data
          cntdwnCounterOffsets := copyOffsets ((settings.map CntdwnSettings.counterOffsetsPresp).getD []) }
      { s with probeResp := some new }

/-- **`ieee80211_assign_beacon`** -/
def ieee80211AssignBeacon (s : Link) (params : BeaconParams) (settings : Option CntdwnSettings) : Option Link :=
  match params.head.or (s.beacon.map BeaconData.head) with
  | none => none
  | some head =>
    let new : BeaconData :=
      { head := head
        tail := (params.tail.or (s.beacon.map BeaconData.tail)).getD []
        cntdwnCounterOffsets := copyOffsets ((settings.map CntdwnSettings.counterOffsetsBeacon).getD [])
        cntdwnCurrentCounter := (settings.map CntdwnSettings.count).getD 0 }
    some { ieee80211SetProbeResp s params.probeResp settings with beacon := some new }

/-- **`nl80211_channel_switch`** of an AP, to the template for the countdown; a count of one or less installs nothing. -/
def channelSwitch (s : Link) (params : BeaconParams) (count : Byte) (beaconAttr : List (BitVec 16)) (prespAttr : Option (List (BitVec 16))) :
    Option Link := do
  let offsetsBeacon ← nl80211ParseCounterOffsets (params.tail.getD []) count (some beaconAttr)
  let offsetsPresp ← nl80211ParseCounterOffsets (params.probeResp.getD []) count prespAttr
  if count.toNat ≤ 1 then some s
  else if IEEE80211_MAX_CNTDWN_COUNTERS_NUM < offsetsBeacon.length ∨ IEEE80211_MAX_CNTDWN_COUNTERS_NUM < offsetsPresp.length then none
  else ieee80211AssignBeacon s params (some ⟨offsetsBeacon, offsetsPresp, count⟩)

/-- **`nl80211_color_change`**, to the template for the countdown: one offset each, that of the probe response is optional. -/
def colorChange (s : Link) (params : BeaconParams) (count : Byte) (offsetBeacon : BitVec 16) (offsetPresp : Option (BitVec 16)) :
    Option Link := do
  let offsetsBeacon ← nl80211ParseCounterOffsets (params.tail.getD []) count (some [offsetBeacon])
  let offsetsPresp ← nl80211ParseCounterOffsets (params.probeResp.getD []) count (offsetPresp.map fun offset => [offset])
  ieee80211AssignBeacon s params (some ⟨offsetsBeacon, offsetsPresp, count⟩)

/-! ## The countdown -/

/-- A write into the data of a probe response. -/
def writeByte (data : List Byte) (offset : BitVec 16) (v : Byte) : Option (List Byte) :=
  if offset.toNat < data.length then some (data.set offset.toNat v) else none

/-- The write into the probe response, when there is one. -/
def setResp (ap : Bool) (count : Byte) (i : Fin IEEE80211_MAX_CNTDWN_COUNTERS_NUM) (resp : Option ProbeResp) : Option (Option ProbeResp) :=
  match ap, resp with
  | true, some r => (writeByte r.data (r.cntdwnCounterOffsets i) count).map fun data => some { r with data := data }
  | _, _ => some resp

/-- The loop of `ieee80211_set_beacon_cntdwn`, for the counters that are left. -/
def setCntdwnLoop (ap : Bool) (bcnOffsets : Offsets) (count : Byte) :
    List (Fin IEEE80211_MAX_CNTDWN_COUNTERS_NUM) → List Byte → Option ProbeResp → Option (List Byte × Option ProbeResp)
  | [], data, resp => some (data, resp)
  | i :: rest, data, resp =>
    -- `WARN_ON_ONCE`
    if bcnOffsets i ≠ 0 ∧ data.length ≤ (bcnOffsets i).toNat then some (data, resp)
    else
      match setResp ap count i resp with
      | none => none
      | some resp => setCntdwnLoop ap bcnOffsets count rest (if bcnOffsets i ≠ 0 then data.set (bcnOffsets i).toNat count else data) resp

/-- The counters that are written: all of them during a channel switch. -/
def counters (csaActive : Bool) : List (Fin IEEE80211_MAX_CNTDWN_COUNTERS_NUM) := if csaActive then [0, 1] else [0]

/-- **`ieee80211_set_beacon_cntdwn`** -/
def ieee80211SetBeaconCntdwn (s : Link) (b : BeaconData) : Option Link :=
  (setCntdwnLoop (s.iftype = .ap) b.cntdwnCounterOffsets b.cntdwnCurrentCounter (counters s.csaActive) (b.counterData s.iftype)
    s.probeResp).map fun r => { s with beacon := some (b.setCounterData s.iftype r.1), probeResp := r.2 }

/-- **`__ieee80211_beacon_update_cntdwn`** -/
def beaconUpdateCntdwn (b : BeaconData) : BeaconData := { b with cntdwnCurrentCounter := b.cntdwnCurrentCounter - 1 }

/-- The countdown in `ieee80211_beacon_get_ap`, and in `__ieee80211_beacon_get` for the other types. -/
def beaconGet (s : Link) (isTemplate : Bool) : Option Link :=
  match s.beacon with
  | none => some s
  | some b =>
    if b.cntdwnCounterOffsets 0 = 0 then some s
    else ieee80211SetBeaconCntdwn s (if isTemplate then b else beaconUpdateCntdwn b)

/-- **`ieee80211_beacon_cntdwn_is_complete`** -/
def ieee80211BeaconCntdwnIsComplete (s : Link) : Option Bool :=
  if s.running = false then some false
  else
    match s.beacon with
    | none => some false
    | some b =>
      if b.cntdwnCounterOffsets 0 = 0 then some false
      else if (b.counterData s.iftype).length < (b.cntdwnCounterOffsets 0).toNat then some false
      else ((b.counterData s.iftype)[(b.cntdwnCounterOffsets 0).toNat]?).map fun v => v = 1

/-! ## Runs -/

/-- What userspace and the driver do; `build` is the template of an IBSS or a mesh, with its counter when there is a channel switch. -/
inductive Op where
  | channelSwitch (params : BeaconParams) (count : Byte) (beaconAttr : List (BitVec 16)) (prespAttr : Option (List (BitVec 16)))
  | colorChange (params : BeaconParams) (count : Byte) (offsetBeacon : BitVec 16) (offsetPresp : Option (BitVec 16))
  | changeBeacon (params : BeaconParams)
  | build (head tail : List Byte) (csa : Option (BitVec 16 × Byte))
  | csaActive (active : Bool)
  | running (running : Bool)
  | beacon (isTemplate : Bool)
  | update
  | setCntdwn (counter : Byte)

def run (s : Link) : Op → Option Link
  | .channelSwitch params count beaconAttr prespAttr => channelSwitch s params count beaconAttr prespAttr
  | .colorChange params count offsetBeacon offsetPresp => colorChange s params count offsetBeacon offsetPresp
  | .changeBeacon params => ieee80211AssignBeacon s params none
  | .build head tail csa =>
    let new : BeaconData :=
      { head := head
        tail := tail
        cntdwnCounterOffsets := copyOffsets (csa.elim [] fun c => [c.1])
        cntdwnCurrentCounter := csa.elim 0 Prod.snd }
    some { s with beacon := some new }
  | .csaActive active => some { s with csaActive := active }
  | .running running => some { s with running := running }
  | .beacon isTemplate => beaconGet s isTemplate
  | .update => some { s with beacon := s.beacon.map beaconUpdateCntdwn }
  | .setCntdwn counter => some { s with beacon := s.beacon.map fun b =>
      if counter < b.cntdwnCurrentCounter then { b with cntdwnCurrentCounter := counter } else b }

/-- Who calls: userspace gives templates of an AP, the builders those of the other types, with the count where they put it. -/
def Allowed (s : Link) : Op → Prop
  | .channelSwitch _ _ _ _ | .colorChange _ _ _ _ | .changeBeacon _ => s.iftype = .ap
  | .build head _ csa => s.iftype ≠ .ap ∧ ∀ c, csa = some c → head[c.1.toNat]? = some c.2
  | _ => True

/-- **One call** that does not fail. -/
def Step (s : Link) (op : Op) (s' : Link) : Prop := Allowed s op ∧ run s op = some s'

def Initial (s : Link) : Prop := s.beacon = none ∧ s.probeResp = none

def beaconRun : Nat → Link → Option Link
  | 0, s => some s
  | n + 1, s => (beaconRun n s).bind fun s => beaconGet s false

/-- A buffer keeps its length, and every byte but those at the offsets that are not zero. -/
def OnlyAt (offsets : Offsets) (data data' : List Byte) : Prop :=
  data'.length = data.length ∧ ∀ j, (∀ i, offsets i ≠ 0 → (offsets i).toNat ≠ j) → data'[j]? = data[j]?

/-- The probe response keeps all but its counters. -/
def RespOnly : Option ProbeResp → Option ProbeResp → Prop
  | none, none => True
  | some r, some r' => r'.cntdwnCounterOffsets = r.cntdwnCounterOffsets ∧ OnlyAt r.cntdwnCounterOffsets r.data r'.data
  | _, _ => False

/-- **The countdown is right.** -/
structure CntdwnRight (s : Link) (b : BeaconData) : Prop where
  /-- Completion is reported exactly when the beacon carries one. -/
  complete : s.running = true → b.cntdwnCounterOffsets 0 ≠ 0 →
    ∃ v, (b.counterData s.iftype)[(b.cntdwnCounterOffsets 0).toNat]? = some v ∧
      ieee80211BeaconCntdwnIsComplete s = some (decide (v = 1))
  /-- The next write is inside the buffers, and changes nothing but counters. -/
  write : ∃ s' b', ieee80211SetBeaconCntdwn s b = some s' ∧ s'.beacon = some b' ∧ b'.otherData s.iftype = b.otherData s.iftype ∧
    OnlyAt b.cntdwnCounterOffsets (b.counterData s.iftype) (b'.counterData s.iftype) ∧ RespOnly s.probeResp s'.probeResp
  /-- The next beacons carry smaller counts, down to one, of which completion is reported. -/
  counts : b.cntdwnCounterOffsets 0 ≠ 0 → ∀ n, 0 < n → n < b.cntdwnCurrentCounter.toNat →
    ∃ s' b', beaconRun n s = some s' ∧ s'.beacon = some b' ∧
      (∀ i ∈ counters s.csaActive, b.cntdwnCounterOffsets i ≠ 0 →
        (b'.counterData s.iftype)[(b.cntdwnCounterOffsets i).toNat]? = some (b.cntdwnCurrentCounter - BitVec.ofNat 8 n)) ∧
      (s.running = true → ieee80211BeaconCntdwnIsComplete s' = some (decide (b.cntdwnCurrentCounter.toNat - n = 1)))

/-! ## What is installed -/

variable {s s' : Link} {b : BeaconData} {t : Iftype} {offsets : Offsets} {count : Byte} {data : List Byte}

/-- **The offsets are inside the buffers.** -/
structure Installed (s : Link) : Prop where
  beacon : ∀ b, s.beacon = some b → ∀ i, b.cntdwnCounterOffsets i ≠ 0 → (b.cntdwnCounterOffsets i).toNat < (b.counterData s.iftype).length
  probeResp : ∀ r, s.probeResp = some r → ∀ i, (r.cntdwnCounterOffsets i).toNat < r.data.length

theorem parse_some {attr : Option (List (BitVec 16))} {l : List (BitVec 16)} (h : nl80211ParseCounterOffsets data count attr = some l) :
    ∀ offset ∈ l, offset.toNat < data.length := by
  intro offset hmem
  cases attr with
  | none =>
    cases h
    exact absurd hmem List.not_mem_nil
  | some offsets =>
    unfold nl80211ParseCounterOffsets at h
    dsimp only at h
    split_ifs at h with hnil hall
    cases h
    have hbyte := List.all_eq_true.mp hall offset hmem
    obtain ⟨hlt, -⟩ := List.getElem?_eq_some_iff.mp (of_decide_eq_true hbyte)
    exact hlt

theorem copyOffsets_mem (l : List (BitVec 16)) (i : Fin IEEE80211_MAX_CNTDWN_COUNTERS_NUM) : copyOffsets l i = 0 ∨ copyOffsets l i ∈ l := by
  unfold copyOffsets
  rw [List.getD_eq_getElem?_getD]
  cases hget : l[i.val]? with
  | none => exact .inl rfl
  | some offset => exact .inr (List.mem_of_getElem? hget)

/-- What settings have to say of the templates that they are for. -/
def SettingsFit (params : BeaconParams) (settings : Option CntdwnSettings) : Prop :=
  ∀ c, settings = some c → (∀ offset ∈ c.counterOffsetsBeacon, offset.toNat < (params.tail.getD []).length) ∧
    ∀ offset ∈ c.counterOffsetsPresp, offset.toNat < (params.probeResp.getD []).length

theorem setProbeResp_installed (h : Installed s) {params : BeaconParams} {settings : Option CntdwnSettings}
    (hfit : SettingsFit params settings) : ∀ r, (ieee80211SetProbeResp s params.probeResp settings).probeResp = some r →
      ∀ i, (r.cntdwnCounterOffsets i).toNat < r.data.length := by
  intro r hr i
  unfold ieee80211SetProbeResp at hr
  cases hresp : params.probeResp with
  | none =>
    rw [hresp] at hr
    exact h.probeResp r hr i
  | some data =>
    rw [hresp] at hr
    dsimp only at hr
    split_ifs at hr with hnil
    · exact h.probeResp r hr i
    · cases hr
      dsimp only
      rcases copyOffsets_mem ((settings.map CntdwnSettings.counterOffsetsPresp).getD []) i with hzero | hmem
      · rw [hzero]
        exact List.length_pos_iff.mpr hnil
      · cases hset : settings with
        | none =>
          rw [hset] at hmem
          exact absurd hmem List.not_mem_nil
        | some c =>
          rw [hset] at hmem
          have hlt := (hfit c hset).2 _ hmem
          rw [hresp] at hlt
          exact hlt

theorem setProbeResp_same (s : Link) (resp : Option (List Byte)) (settings : Option CntdwnSettings) :
    (ieee80211SetProbeResp s resp settings).iftype = s.iftype := by
  unfold ieee80211SetProbeResp
  cases resp with
  | none => rfl
  | some data =>
    dsimp only
    split_ifs <;> rfl

/-- **`ieee80211_assign_beacon`** installs offsets that are inside the buffers. -/
theorem assignBeacon_installed (h : Installed s) (hap : s.iftype = .ap) {params : BeaconParams} {settings : Option CntdwnSettings}
    (hfit : SettingsFit params settings) (hrun : ieee80211AssignBeacon s params settings = some s') : Installed s' := by
  unfold ieee80211AssignBeacon at hrun
  cases hhead : params.head.or (s.beacon.map BeaconData.head) with
  | none =>
    rw [hhead] at hrun
    cases hrun
  | some head =>
    rw [hhead] at hrun
    cases hrun
    refine ⟨fun b hb i hne => ?_, setProbeResp_installed h hfit⟩
    cases hb
    dsimp only at hne ⊢
    rw [setProbeResp_same, hap]
    show _ < ((params.tail.or (s.beacon.map BeaconData.tail)).getD []).length
    have hmem := (copyOffsets_mem _ i).resolve_left hne
    cases hset : settings with
    | none =>
      rw [hset] at hmem
      exact absurd hmem List.not_mem_nil
    | some c =>
      rw [hset] at hmem
      have hlt := (hfit c hset).1 _ hmem
      cases htail : params.tail with
      | none =>
        rw [htail] at hlt
        exact absurd hlt (Nat.not_lt_zero _)
      | some tail =>
        rw [htail] at hlt
        exact hlt

/-! ## The loop -/

/-- What is written into a buffer, at the places of some counters. -/
structure Written (l : List (Fin IEEE80211_MAX_CNTDWN_COUNTERS_NUM)) (place : Fin IEEE80211_MAX_CNTDWN_COUNTERS_NUM → Option Nat)
    (count : Byte) (data data' : List Byte) : Prop where
  length : data'.length = data.length
  other : ∀ j, (∀ i ∈ l, place i ≠ some j) → data'[j]? = data[j]?
  counter : ∀ i ∈ l, ∀ j, place i = some j → data'[j]? = some count

theorem Written.nil (place : Fin IEEE80211_MAX_CNTDWN_COUNTERS_NUM → Option Nat) (count : Byte) (data : List Byte) :
    Written [] place count data data :=
  ⟨rfl, fun _ _ => rfl, fun _ hi => absurd hi List.not_mem_nil⟩

variable {l : List (Fin IEEE80211_MAX_CNTDWN_COUNTERS_NUM)} {place : Fin IEEE80211_MAX_CNTDWN_COUNTERS_NUM → Option Nat}
  {data' : List Byte} {i : Fin IEEE80211_MAX_CNTDWN_COUNTERS_NUM}

theorem Written.skip (h : Written l place count data data') (hplace : place i = none) : Written (i :: l) place count data data' := by
  refine ⟨h.length, fun j hj => h.other j fun i' hi' => hj i' (List.mem_cons_of_mem i hi'), fun i' hi' j hj => ?_⟩
  rcases List.mem_cons.mp hi' with rfl | hrest
  · rw [hplace] at hj
    cases hj
  · exact h.counter i' hrest j hj

theorem Written.set {k : Nat} (hplace : place i = some k) (hk : k < data.length) (h : Written l place count (data.set k count) data') :
    Written (i :: l) place count data data' := by
  refine ⟨h.length.trans (List.length_set ..), fun j hj => ?_, fun i' hi' j hj => ?_⟩
  · have hne : k ≠ j := fun heq => hj i List.mem_cons_self (heq ▸ hplace)
    rw [h.other j fun i' hi' => hj i' (List.mem_cons_of_mem i hi'), List.getElem?_set_ne hne]
  · rcases List.mem_cons.mp hi' with rfl | hrest
    · obtain rfl : k = j := Option.some.inj (hplace.symm.trans hj)
      by_cases hagain : ∃ i' ∈ l, place i' = some k
      · obtain ⟨i', hmem, hi'⟩ := hagain
        exact h.counter i' hmem k hi'
      · rw [h.other k fun i' hmem hi' => hagain ⟨i', hmem, hi'⟩, List.getElem?_set_self hk]
    · exact h.counter i' hrest j hj

/-- The places in the beacon: an offset of zero is none. -/
def bcnPlace (offsets : Offsets) (i : Fin IEEE80211_MAX_CNTDWN_COUNTERS_NUM) : Option Nat :=
  if offsets i ≠ 0 then some (offsets i).toNat else none

def respPlace (offsets : Offsets) (i : Fin IEEE80211_MAX_CNTDWN_COUNTERS_NUM) : Option Nat := some (offsets i).toNat

def RespWritten (ap : Bool) (l : List (Fin IEEE80211_MAX_CNTDWN_COUNTERS_NUM)) (count : Byte) (resp resp' : Option ProbeResp) : Prop :=
  match ap, resp with
  | true, some r => ∃ data', resp' = some { r with data := data' } ∧ Written l (respPlace r.cntdwnCounterOffsets) count r.data data'
  | _, _ => resp' = resp

/-- **The loop of `ieee80211_set_beacon_cntdwn`**, for offsets that are inside the buffers. -/
theorem setCntdwnLoop_spec (ap : Bool) (offsets : Offsets) (count : Byte) (l : List (Fin IEEE80211_MAX_CNTDWN_COUNTERS_NUM)) :
    ∀ (data : List Byte) (resp : Option ProbeResp), (∀ i, offsets i ≠ 0 → (offsets i).toNat < data.length) →
      (∀ r, resp = some r → ∀ i, (r.cntdwnCounterOffsets i).toNat < r.data.length) →
      ∃ data' resp', setCntdwnLoop ap offsets count l data resp = some (data', resp') ∧ Written l (bcnPlace offsets) count data data' ∧
        RespWritten ap l count resp resp' := by
  induction l with
  | nil =>
    intro data resp _ _
    refine ⟨data, resp, rfl, .nil _ _ _, ?_⟩
    unfold RespWritten
    split
    · exact ⟨_, rfl, .nil _ _ _⟩
    · rfl
  | cons i rest ih =>
    intro data resp hdata hresp
    unfold setCntdwnLoop
    have hinside : ¬ (offsets i ≠ 0 ∧ data.length ≤ (offsets i).toNat) := fun h => Nat.not_le.mpr (hdata i h.1) h.2
    rw [if_neg hinside]
    obtain ⟨data₁, hdata₁⟩ : ∃ d, d = if offsets i ≠ 0 then data.set (offsets i).toNat count else data := ⟨_, rfl⟩
    have hlen : data₁.length = data.length := by
      rw [hdata₁]
      split_ifs
      · exact List.length_set ..
      · rfl
    have hdata' : ∀ i, offsets i ≠ 0 → (offsets i).toNat < data₁.length := by
      rw [hlen]
      exact hdata
    have hbeacon : ∀ data', Written rest (bcnPlace offsets) count data₁ data' → Written (i :: rest) (bcnPlace offsets) count data data' := by
      intro data' h
      by_cases hzero : offsets i ≠ 0
      · rw [hdata₁, if_pos hzero] at h
        exact h.set (if_pos hzero) (hdata i hzero)
      · rw [hdata₁, if_neg hzero] at h
        exact h.skip (if_neg hzero)
    rw [← hdata₁]
    cases ap with
    | false =>
      obtain ⟨data', resp', hrun, hwritten, hresp'⟩ := ih data₁ resp hdata' hresp
      exact ⟨data', resp', hrun, hbeacon data' hwritten, hresp'⟩
    | true =>
      cases resp with
      | none =>
        obtain ⟨data', resp', hrun, hwritten, hresp'⟩ := ih data₁ none hdata' hresp
        exact ⟨data', resp', hrun, hbeacon data' hwritten, hresp'⟩
      | some r =>
        have hlt := hresp r rfl i
        unfold setResp writeByte
        dsimp only
        rw [if_pos hlt]
        obtain ⟨data', resp', hrun, hwritten, rdata', hr', hrwritten⟩ :=
          ih data₁ (some { r with data := r.data.set (r.cntdwnCounterOffsets i).toNat count }) hdata' (by
            intro r' hr' i'
            cases hr'
            dsimp only
            rw [List.length_set]
            exact hresp r rfl i')
        exact ⟨data', resp', hrun, hbeacon data' hwritten, rdata', hr', hrwritten.set rfl hlt⟩

/-! ## One write -/

theorem counterData_set (b : BeaconData) (t : Iftype) (data : List Byte) :
    (b.setCounterData t data).counterData t = data ∧ (b.setCounterData t data).otherData t = b.otherData t ∧
      (b.setCounterData t data).cntdwnCounterOffsets = b.cntdwnCounterOffsets ∧
      (b.setCounterData t data).cntdwnCurrentCounter = b.cntdwnCurrentCounter := by
  cases t <;> exact ⟨rfl, rfl, rfl, rfl⟩

/-- **`ieee80211_set_beacon_cntdwn`**, for a template whose offsets are inside. -/
theorem setBeaconCntdwn_spec (hresp : ∀ r, s.probeResp = some r → ∀ i, (r.cntdwnCounterOffsets i).toNat < r.data.length)
    (hb : ∀ i, b.cntdwnCounterOffsets i ≠ 0 → (b.cntdwnCounterOffsets i).toNat < (b.counterData s.iftype).length) :
    ∃ data' resp', ieee80211SetBeaconCntdwn s b = some { s with beacon := some (b.setCounterData s.iftype data'), probeResp := resp' } ∧
      Written (counters s.csaActive) (bcnPlace b.cntdwnCounterOffsets) b.cntdwnCurrentCounter (b.counterData s.iftype) data' ∧
      RespWritten (s.iftype = .ap) (counters s.csaActive) b.cntdwnCurrentCounter s.probeResp resp' := by
  obtain ⟨data', resp', hrun, hwritten, hresp'⟩ := setCntdwnLoop_spec (s.iftype = .ap) b.cntdwnCounterOffsets b.cntdwnCurrentCounter
    (counters s.csaActive) (b.counterData s.iftype) s.probeResp hb hresp
  refine ⟨data', resp', ?_, hwritten, hresp'⟩
  unfold ieee80211SetBeaconCntdwn
  rw [hrun]
  rfl

theorem RespWritten.installed {ap : Bool} {resp resp' : Option ProbeResp} (h : RespWritten ap l count resp resp')
    (hresp : ∀ r, resp = some r → ∀ i, (r.cntdwnCounterOffsets i).toNat < r.data.length) :
    ∀ r, resp' = some r → ∀ i, (r.cntdwnCounterOffsets i).toNat < r.data.length := by
  unfold RespWritten at h
  split at h
  · obtain ⟨data', rfl, hwritten⟩ := h
    intro r hr i
    cases hr
    dsimp only
    rw [hwritten.length]
    exact hresp _ rfl i
  · rw [h]
    exact hresp

theorem setBeaconCntdwn_installed (hresp : ∀ r, s.probeResp = some r → ∀ i, (r.cntdwnCounterOffsets i).toNat < r.data.length)
    (hb : ∀ i, b.cntdwnCounterOffsets i ≠ 0 → (b.cntdwnCounterOffsets i).toNat < (b.counterData s.iftype).length)
    (hrun : ieee80211SetBeaconCntdwn s b = some s') : Installed s' := by
  obtain ⟨data', resp', heq, hwritten, hresp'⟩ := setBeaconCntdwn_spec hresp hb
  rw [hrun] at heq
  cases heq
  refine ⟨fun b' hb' i hne => ?_, hresp'.installed hresp⟩
  cases hb'
  obtain ⟨hdata, -, hoffsets, -⟩ := counterData_set b s.iftype data'
  rw [hoffsets] at hne ⊢
  rw [hdata, hwritten.length]
  exact hb i hne

theorem beaconUpdate_installed (h : Installed s) (hbeacon : s.beacon = some b) (isTemplate : Bool) :
    ∀ i, (if isTemplate then b else beaconUpdateCntdwn b).cntdwnCounterOffsets i ≠ 0 →
      ((if isTemplate then b else beaconUpdateCntdwn b).cntdwnCounterOffsets i).toNat <
        ((if isTemplate then b else beaconUpdateCntdwn b).counterData s.iftype).length := by
  intro i hne
  have hdata : (beaconUpdateCntdwn b).counterData s.iftype = b.counterData s.iftype := by cases s.iftype <;> rfl
  cases isTemplate with
  | true => exact h.beacon b hbeacon i hne
  | false =>
    rw [if_neg Bool.false_ne_true, hdata]
    exact h.beacon b hbeacon i hne

/-! ## All calls -/

theorem beaconGet_installed (h : Installed s) {isTemplate : Bool} (hrun : beaconGet s isTemplate = some s') : Installed s' := by
  unfold beaconGet at hrun
  cases hbeacon : s.beacon with
  | none =>
    rw [hbeacon] at hrun
    cases hrun
    exact h
  | some b =>
    rw [hbeacon] at hrun
    dsimp only at hrun
    split_ifs at hrun with hzero
    all_goals first
      | cases hrun
        exact h
      | exact setBeaconCntdwn_installed h.probeResp (beaconUpdate_installed h hbeacon true) hrun
      | exact setBeaconCntdwn_installed h.probeResp (beaconUpdate_installed h hbeacon false) hrun

theorem step_installed (h : Installed s) {op : Op} (hstep : Step s op s') : Installed s' := by
  obtain ⟨hallowed, hrun⟩ := hstep
  cases op with
  | channelSwitch params count beaconAttr prespAttr =>
    unfold run channelSwitch at hrun
    dsimp only at hrun
    obtain ⟨offsetsBeacon, hbcn, hrun⟩ := Option.bind_eq_some_iff.mp hrun
    obtain ⟨offsetsPresp, hpresp, hrun⟩ := Option.bind_eq_some_iff.mp hrun
    split_ifs at hrun
    · cases hrun
      exact h
    · refine assignBeacon_installed h hallowed (fun c hc => ?_) hrun
      cases hc
      exact ⟨parse_some hbcn, parse_some hpresp⟩
  | colorChange params count offsetBeacon offsetPresp =>
    unfold run colorChange at hrun
    dsimp only at hrun
    obtain ⟨offsetsBeacon, hbcn, hrun⟩ := Option.bind_eq_some_iff.mp hrun
    obtain ⟨offsetsPresp, hpresp, hrun⟩ := Option.bind_eq_some_iff.mp hrun
    refine assignBeacon_installed h hallowed (fun c hc => ?_) hrun
    cases hc
    exact ⟨parse_some hbcn, parse_some hpresp⟩
  | changeBeacon params =>
    refine assignBeacon_installed h hallowed (fun c hc => ?_) hrun
    cases hc
  | build head tail csa =>
    cases hrun
    refine ⟨fun b hb i hne => ?_, h.probeResp⟩
    cases hb
    have hdata : ∀ b : BeaconData, b.counterData s.iftype = b.head := by
      intro b
      have hnot := hallowed.1
      revert hnot
      cases s.iftype with
      | ap => exact fun hnot => absurd rfl hnot
      | adhoc => exact fun _ => rfl
      | mesh => exact fun _ => rfl
    rw [hdata]
    have hmem := (copyOffsets_mem _ i).resolve_left hne
    cases csa with
    | none => exact absurd hmem List.not_mem_nil
    | some c =>
      obtain ⟨hlt, -⟩ := List.getElem?_eq_some_iff.mp (hallowed.2 c rfl)
      have heq : copyOffsets [c.1] i = c.1 := List.mem_singleton.mp hmem
      show (copyOffsets [c.1] i).toNat < head.length
      rw [heq]
      exact hlt
  | csaActive active =>
    cases hrun
    exact ⟨h.beacon, h.probeResp⟩
  | running running =>
    cases hrun
    exact ⟨h.beacon, h.probeResp⟩
  | beacon isTemplate => exact beaconGet_installed h hrun
  | update =>
    cases hrun
    refine ⟨fun b hb => ?_, h.probeResp⟩
    obtain ⟨b₀, hb₀, rfl⟩ := Option.map_eq_some_iff.mp hb
    exact beaconUpdate_installed h hb₀ false
  | setCntdwn counter =>
    cases hrun
    refine ⟨fun b hb i hne => ?_, h.probeResp⟩
    obtain ⟨b₀, hb₀, rfl⟩ := Option.map_eq_some_iff.mp hb
    have hsame : ∀ v, (({ b₀ with cntdwnCurrentCounter := v } : BeaconData).counterData s.iftype) = b₀.counterData s.iftype := by
      intro v
      cases s.iftype <;> rfl
    split_ifs at hne ⊢
    · rw [hsame]
      exact h.beacon b₀ hb₀ i hne
    · exact h.beacon b₀ hb₀ i hne

theorem reachable_installed (hr : Runs.Reachable Initial Step s) : Installed s := by
  refine hr.invariant (fun s hinit => ⟨fun b hb => ?_, fun r hr => ?_⟩) fun _ _ _ h hstep => step_installed h hstep
  · rw [hinit.1] at hb
    cases hb
  · rw [hinit.2] at hr
    cases hr

/-! ## The countdown is right -/

/-- What is written at the places of the counters is written at offsets that are not zero. -/
theorem Written.onlyAt (h : Written l (bcnPlace offsets) count data data') : OnlyAt offsets data data' := by
  refine ⟨h.length, fun j hj => h.other j fun i _ heq => ?_⟩
  unfold bcnPlace at heq
  split_ifs at heq with hne
  exact hj i hne (Option.some.inj heq)

/-- The counter is in the beacon, which is complete when it is one. -/
theorem isComplete_spec (h : Installed s) (hb : s.beacon = some b) (hrunning : s.running = true) (hzero : b.cntdwnCounterOffsets 0 ≠ 0) :
    ∃ v, (b.counterData s.iftype)[(b.cntdwnCounterOffsets 0).toNat]? = some v ∧
      ieee80211BeaconCntdwnIsComplete s = some (decide (v = 1)) := by
  have hlt := h.beacon b hb 0 hzero
  have hbyte := List.getElem?_eq_getElem hlt
  refine ⟨_, hbyte, ?_⟩
  unfold ieee80211BeaconCntdwnIsComplete
  rw [if_neg (by simp [hrunning]), hb]
  dsimp only
  rw [if_neg hzero, if_neg (Nat.not_lt.mpr (Nat.le_of_lt hlt)), hbyte]
  rfl

theorem beaconGet_spec (h : Installed s) (hb : s.beacon = some b) (hzero : b.cntdwnCounterOffsets 0 ≠ 0) :
    ∃ s' b', beaconGet s false = some s' ∧ s'.beacon = some b' ∧ Installed s' ∧
      s'.iftype = s.iftype ∧ s'.csaActive = s.csaActive ∧ s'.running = s.running ∧
      b'.cntdwnCounterOffsets = b.cntdwnCounterOffsets ∧ b'.cntdwnCurrentCounter = b.cntdwnCurrentCounter - 1 ∧
      ∀ i ∈ counters s.csaActive, b.cntdwnCounterOffsets i ≠ 0 →
        (b'.counterData s.iftype)[(b.cntdwnCounterOffsets i).toNat]? = some (b.cntdwnCurrentCounter - 1) := by
  obtain ⟨data', resp', hset, hwritten, -⟩ :=
    setBeaconCntdwn_spec h.probeResp (beaconUpdate_installed h hb false)
  obtain ⟨hdata, -, hoffsets, hcurrent⟩ := counterData_set (beaconUpdateCntdwn b) s.iftype data'
  have hrun : beaconGet s false =
      some { s with beacon := some ((beaconUpdateCntdwn b).setCounterData s.iftype data'), probeResp := resp' } := by
    unfold beaconGet
    rw [hb]
    dsimp only
    rw [if_neg hzero]
    exact hset
  refine ⟨_, _, hrun, rfl, beaconGet_installed h hrun, rfl, rfl, rfl, hoffsets, hcurrent, fun i hi hne => ?_⟩
  rw [hdata]
  exact hwritten.counter i hi _ (if_pos hne)

/-- **Some beacons count down**, and the last one carries the count. -/
theorem beaconRun_spec (h : Installed s) (hb : s.beacon = some b) (hzero : b.cntdwnCounterOffsets 0 ≠ 0) (n : Nat) :
    ∃ s' b', beaconRun n s = some s' ∧ s'.beacon = some b' ∧ Installed s' ∧
      s'.iftype = s.iftype ∧ s'.csaActive = s.csaActive ∧ s'.running = s.running ∧
      b'.cntdwnCounterOffsets = b.cntdwnCounterOffsets ∧ b'.cntdwnCurrentCounter = b.cntdwnCurrentCounter - BitVec.ofNat 8 n ∧
      (0 < n → ∀ i ∈ counters s.csaActive, b.cntdwnCounterOffsets i ≠ 0 →
        (b'.counterData s.iftype)[(b.cntdwnCounterOffsets i).toNat]? = some (b.cntdwnCurrentCounter - BitVec.ofNat 8 n)) := by
  induction n with
  | zero => exact ⟨s, b, rfl, hb, h, rfl, rfl, rfl, rfl, (BitVec.sub_zero _).symm, fun hpos => absurd hpos (Nat.lt_irrefl 0)⟩
  | succ n ih =>
    obtain ⟨s₁, b₁, hrun, hb₁, h₁, htype, hactive, hrunning, hoffsets, hcurrent, -⟩ := ih
    obtain ⟨s₂, b₂, hnext, hb₂, h₂, htype₂, hactive₂, hrunning₂, hoffsets₂, hcurrent₂, hbytes⟩ := beaconGet_spec h₁ hb₁ (hoffsets ▸ hzero)
    have hcount : b₁.cntdwnCurrentCounter - 1 = b.cntdwnCurrentCounter - BitVec.ofNat 8 (n + 1) := by
      rw [hcurrent]
      bv_omega
    refine ⟨s₂, b₂, ?_, hb₂, h₂, htype₂.trans htype, hactive₂.trans hactive, hrunning₂.trans hrunning, hoffsets₂.trans hoffsets,
      hcurrent₂.trans hcount, fun _ i hi hne => ?_⟩
    · show (beaconRun n s).bind _ = some s₂
      rw [hrun]
      exact hnext
    · rw [← hcount, ← htype, ← hoffsets]
      exact hbytes i (hactive ▸ hi) (hoffsets ▸ hne)

/-- **The countdown is right exactly** when no counter of the probe response has the offset zero, but for a first byte that has the count. -/
theorem cntdwnRight_iff (hr : Runs.Reachable Initial Step s) (hb : s.beacon = some b) :
    CntdwnRight s b ↔ (s.iftype = .ap → ∀ r, s.probeResp = some r → ∀ i ∈ counters s.csaActive,
      r.cntdwnCounterOffsets i ≠ 0 ∨ r.data[0]? = some b.cntdwnCurrentCounter) := by
  have h := reachable_installed hr
  obtain ⟨data', resp', hset, hwritten, hresp⟩ := setBeaconCntdwn_spec h.probeResp (h.beacon b hb)
  constructor
  · intro hright hap r hprobe i hi
    obtain ⟨s', b', hset', -, -, -, honly⟩ := hright.write
    rw [hset] at hset'
    cases hset'
    rw [hprobe] at hresp honly
    rw [decide_eq_true hap] at hresp
    obtain ⟨rdata', rfl, hrwritten⟩ := hresp
    by_contra hbad
    rw [not_or, not_not] at hbad
    -- the first byte is the count, but should be as it was
    have hfirst := hrwritten.counter i hi 0 (by unfold respPlace; rw [hbad.1]; rfl)
    have hkeep := honly.2.2 0 fun i' hne heq => hne (BitVec.eq_of_toNat_eq heq)
    exact hbad.2 (hkeep.symm.trans hfirst)
  · intro hcond
    refine ⟨fun hrunning hzero => isComplete_spec h hb hrunning hzero, ?_, fun hzero n hpos hlt => ?_⟩
    · obtain ⟨hdata, hother, -, -⟩ := counterData_set b s.iftype data'
      refine ⟨_, _, hset, rfl, hother, ?_, ?_⟩
      · rw [hdata]
        exact hwritten.onlyAt
      · dsimp only
        cases hprobe : s.probeResp with
        | none =>
          rw [hprobe] at hresp
          have hnone : resp' = none := by
            revert hresp
            cases decide (s.iftype = .ap) <;> exact fun h => h
          rw [hnone]
          trivial
        | some r =>
          rw [hprobe] at hresp
          by_cases hap : s.iftype = .ap
          · rw [decide_eq_true hap] at hresp
            obtain ⟨rdata', rfl, hrwritten⟩ := hresp
            refine ⟨rfl, hrwritten.length, fun j hj => ?_⟩
            by_cases hcounter : ∃ i ∈ counters s.csaActive, (r.cntdwnCounterOffsets i).toNat = j
            · obtain ⟨i, hi, heq⟩ := hcounter
              -- a byte at an offset of zero, which has the count
              have hzero : r.cntdwnCounterOffsets i = 0 := by
                by_contra hne
                exact hj i hne heq
              have hbyte := (hcond hap r hprobe i hi).resolve_left (not_not.mpr hzero)
              obtain rfl : 0 = j := by
                rw [hzero] at heq
                exact heq
              exact (hrwritten.counter i hi 0 (by unfold respPlace; rw [hzero]; rfl)).trans hbyte.symm
            · exact hrwritten.other j fun i hi heq => hcounter ⟨i, hi, Option.some.inj heq⟩
          · rw [decide_eq_false hap] at hresp
            rw [show resp' = some r from hresp]
            exact ⟨rfl, rfl, fun _ _ => rfl⟩
    · obtain ⟨s', b', hrun, hb', h', htype, hactive, hrunning, hoffsets, hcurrent, hbytes⟩ := beaconRun_spec h hb hzero n
      refine ⟨s', b', hrun, hb', hbytes hpos, fun hrun' => ?_⟩
      obtain ⟨v, hv, hcomplete⟩ := isComplete_spec h' hb' (hrunning.trans hrun') (by rw [hoffsets]; exact hzero)
      have hmem : (0 : Fin IEEE80211_MAX_CNTDWN_COUNTERS_NUM) ∈ counters s.csaActive := by
        unfold counters
        split_ifs <;> simp
      have hbyte := hbytes hpos 0 hmem hzero
      rw [hoffsets, htype, hbyte] at hv
      rw [hcomplete, ← Option.some.inj hv]
      congr 1
      rw [decide_eq_decide]
      have hsmall := b.cntdwnCurrentCounter.isLt
      bv_omega

def start : Link where
  iftype := .ap
  running := true
  csaActive := false
  beacon := none
  probeResp := none

/-- A beacon whose tail is a channel switch announcement of five beacons, and a probe response that ends with one. -/
def params : BeaconParams where
  head := some [0x80, 0]
  tail := some [37, 3, 0, 11, 5]
  probeResp := some [0x50, 0, 37, 3, 0, 11, 5]

/-- The channel switch, with or without the offset in the probe response. -/
def switched (prespAttr : Option (List (BitVec 16))) : Link := (channelSwitch start params 5 [4] prespAttr).getD start

def template : BeaconData where
  head := [0x80, 0]
  tail := [37, 3, 0, 11, 5]
  cntdwnCounterOffsets := copyOffsets [4]
  cntdwnCurrentCounter := 5

theorem offset_given : CntdwnRight (switched (some [6])) template := by
  have hr : Runs.Reachable Initial Step (switched (some [6])) := by
    apply Runs.Reachable.next (i := .channelSwitch params 5 [4] (some [6])) (.start (s := start) ⟨rfl, rfl⟩)
    exact ⟨rfl, rfl⟩
  apply (cntdwnRight_iff hr rfl).mpr
  intro _ r hprobe i hi
  obtain rfl := Option.some.inj hprobe
  obtain rfl := List.mem_singleton.mp hi
  left
  decide

/-- A probe response without an offset: its frame control becomes the count. -/
theorem frame_control_overwritten :
    Runs.Reachable Initial Step (switched none) ∧ (switched none).beacon = some template ∧ ¬ CntdwnRight (switched none) template := by
  refine ⟨?_, rfl, fun h => ?_⟩
  · apply Runs.Reachable.next (i := .channelSwitch params 5 [4] none) (.start (s := start) ⟨rfl, rfl⟩)
    exact ⟨rfl, rfl⟩
  · obtain ⟨s', b', hset, -, -, -, honly⟩ := h.write
    have hrun : ieee80211SetBeaconCntdwn (switched none) template = some { switched none with
        probeResp := some { data := [5, 0, 37, 3, 0, 11, 5], cntdwnCounterOffsets := copyOffsets [] } } := rfl
    rw [hrun] at hset
    cases hset
    have hkeep := honly.2.2 0 fun i hne => absurd rfl hne
    exact absurd hkeep (by decide)

end Mac80211.BeaconCntdwn
