import Mathlib.Data.List.Basic
import Wifi.Linux.Skbuff

/-!
# Frame control (`<linux/ieee80211.h>`) and the length of the header

* `isMgmt`, `isData`, … — the tests of the frame control field, with the masks of the header file.
* `ieee80211Hdrlen` — `ieee80211_hdrlen` (`linux/net/wireless/util.c`).
* `frameControl`, `seqCtrl`, `qosCtl` — fields of a frame in a buffer.
-/

/-- `__le16` of the frame control field. -/
abbrev FrameControl := BitVec 16

def IEEE80211_FCTL_FTYPE : FrameControl := 0x000c
def IEEE80211_FCTL_STYPE : FrameControl := 0x00f0
def IEEE80211_FCTL_TODS : FrameControl := 0x0100
def IEEE80211_FCTL_FROMDS : FrameControl := 0x0200
def IEEE80211_FCTL_MOREFRAGS : FrameControl := 0x0400
def IEEE80211_FCTL_RETRY : FrameControl := 0x0800
def IEEE80211_FCTL_PM : FrameControl := 0x1000
def IEEE80211_FCTL_MOREDATA : FrameControl := 0x2000
def IEEE80211_FCTL_PROTECTED : FrameControl := 0x4000
def IEEE80211_FCTL_ORDER : FrameControl := 0x8000

def IEEE80211_NUM_TIDS : Nat := 16

namespace FrameControl

/-- `ieee80211_is_mgmt` -/
def isMgmt (fc : FrameControl) : Bool := decide (fc &&& IEEE80211_FCTL_FTYPE = 0x0000)
/-- `ieee80211_is_ctl` -/
def isCtl (fc : FrameControl) : Bool := decide (fc &&& IEEE80211_FCTL_FTYPE = 0x0004)
/-- `ieee80211_is_data` -/
def isData (fc : FrameControl) : Bool := decide (fc &&& IEEE80211_FCTL_FTYPE = 0x0008)
/-- `ieee80211_is_ext` -/
def isExt (fc : FrameControl) : Bool := decide (fc &&& IEEE80211_FCTL_FTYPE = 0x000c)
/-- `ieee80211_is_data_qos` -/
def isDataQos (fc : FrameControl) : Bool :=
  decide (fc &&& (IEEE80211_FCTL_FTYPE ||| 0x0080) = 0x0088)
/-- `ieee80211_is_data_present` -/
def isDataPresent (fc : FrameControl) : Bool :=
  decide (fc &&& (IEEE80211_FCTL_FTYPE ||| 0x0040) = 0x0008)
/-- `ieee80211_is_beacon` -/
def isBeacon (fc : FrameControl) : Bool :=
  decide (fc &&& (IEEE80211_FCTL_FTYPE ||| IEEE80211_FCTL_STYPE) = 0x0080)
/-- `ieee80211_has_tods` -/
def hasTods (fc : FrameControl) : Bool := decide (fc &&& IEEE80211_FCTL_TODS ≠ 0)
/-- `ieee80211_has_fromds` -/
def hasFromds (fc : FrameControl) : Bool := decide (fc &&& IEEE80211_FCTL_FROMDS ≠ 0)
/-- `ieee80211_has_protected` -/
def hasProtected (fc : FrameControl) : Bool := decide (fc &&& IEEE80211_FCTL_PROTECTED ≠ 0)
/-- `ieee80211_has_a4` -/
def hasA4 (fc : FrameControl) : Bool := decide (fc &&& 0x0300 = 0x0300)
/-- `ieee80211_has_order` -/
def hasOrder (fc : FrameControl) : Bool := decide (fc &&& IEEE80211_FCTL_ORDER ≠ 0)
/-- `ieee80211_has_morefrags` -/
def hasMorefrags (fc : FrameControl) : Bool := decide (fc &&& IEEE80211_FCTL_MOREFRAGS ≠ 0)

end FrameControl

def ieee80211Hdrlen (fc : FrameControl) : Nat :=
  if fc.isExt then
    4
  else if fc.isData then
    let hdrlen := if fc.hasA4 then 30 else 24
    if fc.isDataQos then
      if fc.hasOrder then hdrlen + 2 + 4 else hdrlen + 2
    else
      hdrlen
  else if fc.isMgmt then
    if fc.hasOrder then 24 + 4 else 24
  else if fc.isCtl then
    if fc &&& 0x00e0 = 0x00c0 then 10 else 16
  else
    24

def le16 (data : List Byte) (offset : Nat) : BitVec 16 :=
  data.getD (offset + 1) 0 ++ data.getD offset 0

/-- The two bytes of a 16-bit number in little-endian order. -/
def toLe16 (n : BitVec 16) : List Byte := [n.setWidth 8, (n >>> 8).setWidth 8]

theorem le16_bytes (n : BitVec 16) : (n >>> 8).setWidth 8 ++ n.setWidth 8 = n := by grind

theorem le16_toLe16 (n : BitVec 16) (l : List Byte) : le16 (toLe16 n ++ l) 0 = n := le16_bytes n

/-- `hdr->frame_control` -/
def frameControl (data : List Byte) : FrameControl := le16 data 0

/-- `hdr->seq_ctrl` -/
def seqCtrl (data : List Byte) : BitVec 16 := le16 data 22

/-- `*ieee80211_get_qos_ctl(hdr)` -/
def qosCtl (data : List Byte) : Byte :=
  data.getD (if (frameControl data).hasA4 then 30 else 24) 0

/-- `ieee80211_is_frag` -/
def isFrag (data : List Byte) : Bool :=
  (frameControl data).hasMorefrags || decide (seqCtrl data &&& 0x000f ≠ 0)

/-!
## Ethernet addresses (`linux/etherdevice.h`)

* `EthAddr` — `u8[ETH_ALEN]`, the first octet is the most significant one.
* `isMulticastEtherAddr` — the group bit.
-/

/-- `u8[ETH_ALEN]` -/
abbrev EthAddr := BitVec 48

def isMulticastEtherAddr (addr : EthAddr) : Bool := addr.getLsbD 40

/-- `eth_broadcast_addr` -/
def broadcastAddr : EthAddr := BitVec.allOnes 48

/-!
## Interface types (`<linux/nl80211.h>`), and addresses in memory
-/

inductive Nl80211Iftype where
  | unspecified | adhoc | station | ap | apVlan | wds | monitor | meshPoint | p2pClient | p2pGo | p2pDevice | ocb | nan
  deriving DecidableEq, Repr

abbrev Addr := { addr : List Byte // addr.length = 6 }
