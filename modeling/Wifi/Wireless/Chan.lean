import Mathlib


/-!
# Channel definitions

* `ChanDef` — `struct cfg80211_chan_def`; `Header` — what `chan.c` takes from `cfg80211.h`.
* `ChanDef.valid` — `cfg80211_chandef_valid`; `ChanDef.primary` — `cfg80211_chandef_primary`.
* `compatible` — `cfg80211_chandef_compatible`.

Frequencies are in MHz, as `u32`. A chandef without a channel is not valid; its control frequency, which is
then not read, is 0.
-/

namespace Wireless.Chan

/-- `enum nl80211_chan_width` -/
inductive Width where
  | w20NoHt | w20 | w40 | w80 | w80p80 | w160 | w5 | w10 | w1 | w2 | w4 | w8 | w16 | w320
  deriving DecidableEq

namespace Width

def toNat : Width → Nat
  | .w20NoHt => 0
  | .w20 => 1
  | .w40 => 2
  | .w80 => 3
  | .w80p80 => 4
  | .w160 => 5
  | .w5 => 6
  | .w10 => 7
  | .w1 => 8
  | .w2 => 9
  | .w4 => 10
  | .w8 => 11
  | .w16 => 12
  | .w320 => 13

/-- `nl80211_chan_width_to_mhz` -/
def mhz : Width → Nat
  | .w1 => 1
  | .w2 => 2
  | .w4 => 4
  | .w8 => 8
  | .w16 => 16
  | .w5 => 5
  | .w10 => 10
  | .w20 | .w20NoHt => 20
  | .w40 => 40
  | .w80p80 | .w80 => 80
  | .w160 => 160
  | .w320 => 320

def narrowOrS1g : Width → Bool
  | .w5 | .w10 | .w1 | .w2 | .w4 | .w8 | .w16 => true
  | _ => false

end Width

/-- `struct ieee80211_channel`, at its address -/
structure Channel where
  addr : Nat
  s1g : Bool
  centerFreq : BitVec 32
  freqOffset : BitVec 16
  deriving DecidableEq

/-- `struct ieee80211_edmg` -/
structure Edmg where
  channels : BitVec 8
  bwConfig : Nat
  deriving DecidableEq

/-- `struct cfg80211_chan_def` -/
structure ChanDef where
  chan : Option Channel
  width : Width
  centerFreq1 : BitVec 32
  centerFreq2 : BitVec 32
  edmg : Edmg
  freq1Offset : BitVec 16
  punctured : BitVec 16
  deriving DecidableEq

/-- The inline functions of `cfg80211.h` that `chan.c` calls. -/
structure Header where
  /-- `cfg80211_chandef_identical` -/
  identical : ChanDef → ChanDef → Bool
  /-- `cfg80211_chandef_is_edmg` -/
  isEdmg : ChanDef → Bool
  /-- `ieee80211_chandef_to_khz` -/
  chandefToKhz : ChanDef → BitVec 32
  /-- `ieee80211_channel_to_khz` -/
  channelToKhz : Channel → BitVec 32
  /-- `ieee80211_s1g_channel_width` -/
  s1gChannelWidth : Channel → Width

/-- `cfg80211_chandef_identical`: both are the same channel definition. -/
structure Header.Identical (hd : Header) : Prop where
  refl : ∀ a, hd.identical a a = true
  symm : ∀ a b, hd.identical a b = true → hd.identical b a = true
  trans : ∀ a b c, hd.identical a b = true → hd.identical b c = true → hd.identical a c = true
  fields : ∀ a b, hd.identical a b = true → a.chan = b.chan ∧ a.width = b.width ∧
    a.centerFreq1 = b.centerFreq1 ∧ a.centerFreq2 = b.centerFreq2 ∧ a.freq1Offset = b.freq1Offset ∧
      a.punctured = b.punctured

/-! ## Valid channel definitions -/

def puncturingValues80mhz : List (BitVec 16) := [0x8, 0x4, 0x2, 0x1]

def puncturingValues160mhz : List (BitVec 16) :=
  [0x80, 0x40, 0x20, 0x10, 0x8, 0x4, 0x2, 0x1, 0xc0, 0x30, 0xc, 0x3]

def puncturingValues320mhz : List (BitVec 16) :=
  [0xc000, 0x3000, 0xc00, 0x300, 0xc0, 0x30, 0xc, 0x3, 0xf000, 0xf00, 0xf0, 0xf,
    0xfc00, 0xf300, 0xf0c0, 0xf030, 0xf00c, 0xf003, 0xc00f, 0x300f, 0xc0f, 0x30f, 0xcf, 0x3f]

namespace ChanDef

variable (c : ChanDef)

/-- `c->chan->center_freq` -/
def control : BitVec 32 := (c.chan.map Channel.centerFreq).getD 0

/-- One row of `per_bw_puncturing`. -/
def puncturingOf (values : List (BitVec 16)) (startFreq : BitVec 32) : Bool :=
  c.punctured = 0 ||
    (c.punctured &&& BitVec.ofNat 16 (2 ^ ((c.control - startFreq) / 20).toNat) = 0 &&
      values.contains c.punctured)

def validPuncturingBitmap : Bool :=
  match c.width with
  | .w80 => c.puncturingOf puncturingValues80mhz (c.centerFreq1 - 40)
  | .w160 => c.puncturingOf puncturingValues160mhz (c.centerFreq1 - 80)
  | .w320 => c.puncturingOf puncturingValues320mhz (c.centerFreq1 - 160)
  | _ => c.punctured = 0

/-- The loop over the six EDMG channels: enabled, contiguous, most contiguous. -/
def edmgCount : Nat × Nat × Nat :=
  (List.range 6).foldl (fun (enabled, contiguous, most) i =>
    let (enabled, contiguous) := if c.edmg.channels.getLsbD i then (enabled + 1, contiguous + 1) else (enabled, 0)
    (enabled, contiguous, max contiguous most)) (0, 0, 0)

/-- `cfg80211_edmg_chandef_valid` -/
def edmgChandefValid : Bool :=
  let (enabled, _, most) := c.edmgCount
  c.edmg.channels ≠ 0 && c.edmg.bwConfig ≠ 0 && (58320 ≤ c.control && c.control ≤ 70200) &&
    (match c.edmg.bwConfig with
      | 4 | 8 | 12 => 1 ≤ most
      | 5 | 9 | 13 => 2 ≤ most
      | 6 | 10 | 14 => 3 ≤ most
      | 7 | 11 | 15 => 4 ≤ most
      | _ => false) &&
    match c.edmg.bwConfig with
    | 4 | 5 | 6 | 7 => true
    | 8 | 9 | 10 | 11 => 2 ≤ enabled
    | 12 | 13 | 14 | 15 => 4 ≤ enabled && 2 ≤ most
    | _ => false

/-- The first `switch` of `cfg80211_chandef_valid`, with the channel. -/
def validFreqs (hd : Header) (chan : Channel) : Bool :=
  match c.width with
  | .w5 | .w10 | .w20 | .w20NoHt => hd.chandefToKhz c = hd.channelToKhz chan && c.centerFreq2 = 0
  | .w1 | .w2 | .w4 | .w8 | .w16 =>
    let control := hd.channelToKhz chan
    let oper := hd.chandefToKhz c
    let controlWidth := BitVec.ofNat 32 ((hd.s1gChannelWidth chan).mhz * 1000 / 2)
    let operWidth := BitVec.ofNat 32 (c.width.mhz * 1000 / 2)
    chan.s1g && c.centerFreq2 = 0 && !(oper + operWidth < control + controlWidth) &&
      !(control - controlWidth < oper - operWidth)
  | .w80p80 => c.centerFreq2 ≠ 0 && !(c.centerFreq1 - c.centerFreq2 = 80 || c.centerFreq2 - c.centerFreq1 = 80)
  | _ => c.centerFreq2 = 0

/-- The center is one of the distances away from the control channel. -/
def centerAt (distances : List (BitVec 32)) : Bool :=
  distances.any fun d => c.centerFreq1 = c.control + d || c.centerFreq1 = c.control - d

/-- The second `switch`, which falls through to the narrower widths. -/
def validCenter : Bool :=
  match c.width with
  | .w320 => c.centerAt [150, 130, 110, 90] || c.centerAt [70, 50] || c.centerAt [30] || c.centerAt [10]
  | .w160 => c.centerAt [70, 50] || c.centerAt [30] || c.centerAt [10]
  | .w80p80 | .w80 => c.centerAt [30] || c.centerAt [10]
  | .w40 => c.centerAt [10]
  | _ => true

/-- `cfg80211_chandef_valid` -/
def valid (hd : Header) : Bool :=
  match c.chan with
  | none => false
  | some chan =>
    c.freq1Offset < 1000 && c.validFreqs hd chan && c.validCenter &&
      !(c.centerFreq1 = 2484 && c.width ≠ .w20NoHt) && (!hd.isEdmg c || c.edmgChandefValid) &&
        c.validPuncturingBitmap

/-! ## Compatible channel definitions -/

/-- One round of the loop of `cfg80211_chandef_primary`: the half with the control channel. -/
def halve (control : BitVec 32) (width : Nat) (s : BitVec 32 × BitVec 16) : BitVec 32 × BitVec 16 :=
  if control > s.1 then (s.1 + BitVec.ofNat 32 (width / 4), s.2 >>> (width / 20 / 2))
  else (s.1 - BitVec.ofNat 32 (width / 4), s.2 &&& BitVec.ofNat 16 (2 ^ (width / 20 / 2) - 1))

/-- The loop; it is done after at most `fuel` rounds. -/
def halveTo (control : BitVec 32) (priWidth : Nat) : (fuel width : Nat) → BitVec 32 × BitVec 16 →
    BitVec 32 × BitVec 16
  | 0, _, s => s
  | fuel + 1, width, s =>
    if priWidth < width then halveTo control priWidth fuel (width / 2) (halve control width s) else s

/-- `cfg80211_chandef_primary`: the center and the punctured bits. -/
def primary (primaryChanWidth : Width) : BitVec 32 × BitVec 16 :=
  if c.width.mhz < primaryChanWidth.mhz then (-1, 0)
  else halveTo c.control primaryChanWidth.mhz c.width.mhz c.width.mhz (c.centerFreq1, c.punctured)

end ChanDef

/-- A pointer, `ERR_PTR`, or `NULL` to continue. -/
inductive Check where
  | err
  | next
  | ok (c : ChanDef)
  deriving DecidableEq

def checkChandefPrimaryCompat (c1 c2 : ChanDef) (primaryChanWidth : Width) : Check :=
  let p1 := c1.primary primaryChanWidth
  let p2 := c2.primary primaryChanWidth
  if p1.1 ≠ p2.1 then .err
  else if p1.2 ≠ p2.2 then .err
  else if c1.width = primaryChanWidth then .ok c2
  else .next

/-- The checks of `_cfg80211_chandef_compatible` with the narrower one first. -/
def compatibleNarrower (c1 c2 : ChanDef) : Check :=
  if c1.width.toNat ≤ Width.w20.toNat then .ok c2
  else match checkChandefPrimaryCompat c1 c2 .w40 with
    | .next => match checkChandefPrimaryCompat c1 c2 .w80 with
      | .next =>
        if c1.width = .w80p80 then .next
        else checkChandefPrimaryCompat c1 c2 .w160
      | ret => ret
    | ret => ret

/-- `_cfg80211_chandef_compatible` -/
def compatibleRaw (hd : Header) (c1 c2 : ChanDef) : Check :=
  if hd.identical c1 c2 then .ok c2
  else if c1.chan ≠ c2.chan then .next
  else if c1.width = c2.width then .next
  else if c1.width.narrowOrS1g || c2.width.narrowOrS1g then .next
  else if c1.width.toNat > c2.width.toNat then compatibleNarrower c2 c1
  else compatibleNarrower c1 c2

/-- `cfg80211_chandef_compatible` -/
def compatible (hd : Header) (c1 c2 : ChanDef) : Option ChanDef :=
  match compatibleRaw hd c1 c2 with
  | .ok c => some c
  | _ => none

end Wireless.Chan

/-!
## Channels with radar detection (`linux/net/wireless/chan.c`)

* `DfsChannel` — what the walks read and write of a `struct ieee80211_channel`; a table holds the channels of all bands.
* `freqLoop` — a loop over frequencies; `writerSeg` (MHz) and `readerSeg` (kHz) — its two uses.
* `setDfsState` — `cfg80211_set_dfs_state`, the writer.
* `chandefDfsRequired`, `chandefDfsUsable`, `chandefDfsAvailable`, `chandefDfsCacTime` — the readers.

Frequencies are `u32`. A loop that does not end because the frequency wraps around is cut off after 2^32 rounds, where it has seen all
its frequencies.
-/

namespace Wireless.Dfs

open Wireless.Chan

/-- `enum nl80211_dfs_state` -/
inductive DfsState where
  | usable | unavailable | available
  deriving DecidableEq

/-- `enum nl80211_iftype` -/
inductive Iftype where
  | adhoc | station | ap | apVlan | wds | monitor | meshPoint | p2pClient | p2pGo | p2pDevice | ocb | nan | unspecified
  deriving DecidableEq

/-- **`struct ieee80211_channel`**, with the flags `IEEE80211_CHAN_RADAR` and `IEEE80211_CHAN_DISABLED`. -/
structure DfsChannel where
  chan : Channel
  radar : Bool
  disabled : Bool
  dfsState : DfsState
  dfsStateEntered : Nat
  dfsCacMs : Nat
  deriving DecidableEq

/-- The channels of all bands of a `struct wiphy`, in order; a channel is its index. -/
abbrev Table := List DfsChannel

def noChannel : DfsChannel where
  chan := { addr := 0, s1g := false, centerFreq := 0, freqOffset := 0 }
  radar := false
  disabled := true
  dfsState := .usable
  dfsStateEntered := 0
  dfsCacMs := 0

def Table.at (t : Table) (i : Nat) : DfsChannel := t.getD i noChannel

variable (hd : Header)

/-- **`ieee80211_get_channel_khz`.** -/
def getChannelKhz (t : Table) (freq : BitVec 32) : Option Nat := t.findIdx? fun c => hd.channelToKhz c.chan = freq

def mhzToKhz (freq : BitVec 32) : BitVec 32 := freq * 1000

/-- `for (freq = …; freq <= end_freq; freq += step)` -/
def freqsFrom (endFreq step : BitVec 32) : (fuel : Nat) → BitVec 32 → List (BitVec 32)
  | 0, _ => []
  | fuel + 1, freq => if freq ≤ endFreq then freq :: freqsFrom endFreq step fuel (freq + step) else []

def freqLoop (startFreq endFreq step : BitVec 32) : List (BitVec 32) := freqsFrom endFreq step 4294967296 startFreq

/-! ## The writer -/

/-- The loop of `cfg80211_set_chans_dfs_state`, in MHz. -/
def writerSeg (centerFreq bandwidth : BitVec 32) : List (BitVec 32) :=
  freqLoop (centerFreq - bandwidth / 2 + 10) (centerFreq + bandwidth / 2 - 10) 20

def setChanDfsState (now : Nat) (dfsState : DfsState) (t : Table) (freq : BitVec 32) : Table :=
  match getChannelKhz hd t (mhzToKhz freq) with
  | none => t
  | some i =>
    if (t.at i).radar then t.modify i fun c => { c with dfsState := dfsState, dfsStateEntered := now } else t

/-- **`cfg80211_set_chans_dfs_state`.** -/
def setChansDfsState (now : Nat) (t : Table) (centerFreq bandwidth : BitVec 32) (dfsState : DfsState) : Table :=
  (writerSeg centerFreq bandwidth).foldl (setChanDfsState hd now dfsState) t

/-- `cfg80211_chandef_get_width` -/
def getWidth (c : ChanDef) : BitVec 32 := BitVec.ofNat 32 c.width.mhz

/-- **`cfg80211_set_dfs_state`.** -/
def setDfsState (now : Nat) (t : Table) (c : ChanDef) (dfsState : DfsState) : Table :=
  if c.valid hd then
    let t := setChansDfsState hd now t c.centerFreq1 (getWidth c) dfsState
    if c.centerFreq2 = 0 then t else setChansDfsState hd now t c.centerFreq2 (getWidth c) dfsState
  else t

/-! ## The readers -/

/-- `cfg80211_get_start_freq` -/
def getStartFreq (centerFreq bandwidth : BitVec 32) : BitVec 32 :=
  let bandwidth := mhzToKhz bandwidth
  if bandwidth ≤ mhzToKhz 20 then centerFreq else centerFreq - bandwidth / 2 + mhzToKhz 10

/-- `cfg80211_get_end_freq` -/
def getEndFreq (centerFreq bandwidth : BitVec 32) : BitVec 32 :=
  let bandwidth := mhzToKhz bandwidth
  if bandwidth ≤ mhzToKhz 20 then centerFreq else centerFreq + bandwidth / 2 - mhzToKhz 10

def readerSeg (centerFreq bandwidth : BitVec 32) : List (BitVec 32) :=
  freqLoop (getStartFreq centerFreq bandwidth) (getEndFreq centerFreq bandwidth) (mhzToKhz 20)

/-- **`cfg80211_get_chans_dfs_required`**; `permissive` is `cfg80211_dfs_permissive_chan`. -/
def getChansDfsRequired (t : Table) (permissive : Nat → Bool) : List (BitVec 32) → Int
  | [] => 0
  | freq :: freqs =>
    match getChannelKhz hd t freq with
    | none => -22
    | some i => if (t.at i).radar && !permissive i then 1 else getChansDfsRequired t permissive freqs

/-- `BIT(chandef->width)` -/
def widthBit (c : ChanDef) : Int := 2 ^ c.width.toNat

def Iftype.beacons : Iftype → Bool
  | .adhoc | .ap | .p2pGo | .meshPoint => true
  | _ => false

/-- **`cfg80211_chandef_dfs_required`.** -/
def chandefDfsRequired (t : Table) (c : ChanDef) (iftype : Iftype) (permissive : Iftype → Nat → Bool) : Int :=
  if !c.valid hd then -22
  else if iftype.beacons then
    let ret := getChansDfsRequired hd t (permissive iftype) (readerSeg (hd.chandefToKhz c) (getWidth c))
    if ret < 0 then ret
    else if ret > 0 then widthBit c
    else if c.centerFreq2 = 0 then 0
    else
      let ret := getChansDfsRequired hd t (permissive iftype) (readerSeg (mhzToKhz c.centerFreq2) (getWidth c))
      if ret < 0 then ret else if ret > 0 then widthBit c else 0
  else 0

/-- **`cfg80211_get_chans_dfs_usable`**: `none` for `-EINVAL`. -/
def getChansDfsUsable (t : Table) : List (BitVec 32) → (count : Nat) → Option Nat
  | [], count => some count
  | freq :: freqs, count =>
    match getChannelKhz hd t freq with
    | none => none
    | some i =>
      if (t.at i).disabled then none
      else if (t.at i).radar then
        match (t.at i).dfsState with
        | .unavailable => none
        | .usable => getChansDfsUsable t freqs (count + 1)
        | .available => getChansDfsUsable t freqs count
      else getChansDfsUsable t freqs count

/-- **`cfg80211_chandef_dfs_usable`.** -/
def chandefDfsUsable (t : Table) (c : ChanDef) : Bool :=
  if !c.valid hd then false
  else
    match getChansDfsUsable hd t (readerSeg (mhzToKhz c.centerFreq1) (getWidth c)) 0 with
    | none => false
    | some r1 =>
      if c.width = .w80p80 then
        match getChansDfsUsable hd t (readerSeg (mhzToKhz c.centerFreq2) (getWidth c)) 0 with
        | none => false
        | some r2 => r1 + r2 > 0
      else r1 > 0

/-- The test of `cfg80211_get_chans_dfs_available` that a channel passes. -/
def DfsChannel.passes (dfsOffload : Bool) (c : DfsChannel) : Bool :=
  !c.disabled && !(c.radar && c.dfsState ≠ .available && !(c.dfsState = .usable && dfsOffload))

/-- **`cfg80211_get_chans_dfs_available`.** -/
def getChansDfsAvailable (t : Table) (dfsOffload : Bool) : List (BitVec 32) → Bool
  | [] => true
  | freq :: freqs =>
    match getChannelKhz hd t freq with
    | none => false
    | some i => if (t.at i).passes dfsOffload then getChansDfsAvailable t dfsOffload freqs else false

/-- **`cfg80211_chandef_dfs_available`.** -/
def chandefDfsAvailable (t : Table) (dfsOffload : Bool) (c : ChanDef) : Bool :=
  if !c.valid hd then false
  else if !getChansDfsAvailable hd t dfsOffload (readerSeg (mhzToKhz c.centerFreq1) (getWidth c)) then false
  else if c.width = .w80p80 then
    getChansDfsAvailable hd t dfsOffload (readerSeg (mhzToKhz c.centerFreq2) (getWidth c))
  else true

/-- **`cfg80211_get_chans_dfs_cac_time`.** -/
def getChansDfsCacTime (t : Table) : List (BitVec 32) → (dfsCacMs : Nat) → Nat
  | [], dfsCacMs => dfsCacMs
  | freq :: freqs, dfsCacMs =>
    match getChannelKhz hd t freq with
    | none => 0
    | some i =>
      if (t.at i).disabled then 0
      else if !(t.at i).radar then getChansDfsCacTime t freqs dfsCacMs
      else getChansDfsCacTime t freqs (if (t.at i).dfsCacMs > dfsCacMs then (t.at i).dfsCacMs else dfsCacMs)

/-- **`cfg80211_chandef_dfs_cac_time`.** -/
def chandefDfsCacTime (t : Table) (c : ChanDef) : Nat :=
  if !c.valid hd then 0
  else
    let t1 := getChansDfsCacTime hd t (readerSeg (mhzToKhz c.centerFreq1) (getWidth c)) 0
    if c.centerFreq2 = 0 then t1
    else max t1 (getChansDfsCacTime hd t (readerSeg (mhzToKhz c.centerFreq2) (getWidth c)) 0)

end Wireless.Dfs
