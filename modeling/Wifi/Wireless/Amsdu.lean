import Mathlib
import Wifi.Linux.Skbuff

/-!
# A-MSDU deaggregation (`linux/net/wireless/util.c`)

* `getTunnelProto` — `ieee80211_get_8023_tunnel_proto`.
* `amsduSubframeLength`, `isValidAmsdu` — the subframe headers of an A-MSDU, and the check that they
  fit.
* `amsduCopyFrag`, `amsduCopy` — a frame made of a part of the data.
* `amsduTo8023s` — the loop over the subframes.

Lengths and offsets are `int` and `unsigned int` in the source: an `AmsduSkb` is short enough for
both.  The memory that `dev_alloc_skb` returns is a parameter.
-/

namespace Wireless.Amsdu

def ETH_ALEN : Nat := 6
/-- `sizeof(struct ethhdr)` -/
def ETH_HLEN : Nat := 14

def rfc1042Header : List Byte := [0xaa, 0xaa, 0x03, 0x00, 0x00, 0x00]
def bridgeTunnelHeader : List Byte := [0xaa, 0xaa, 0x03, 0x00, 0x00, 0xf8]
/-- `htons(ETH_P_AARP)` -/
def ETH_P_AARP : List Byte := [0x80, 0xf3]
/-- `htons(ETH_P_IPX)` -/
def ETH_P_IPX : List Byte := [0x81, 0x37]

structure EthHdr where
  hDest : List Byte
  hSource : List Byte
  hProto : List Byte
  deriving DecidableEq, Repr

namespace EthHdr

def bytes (eth : EthHdr) : List Byte := eth.hDest ++ (eth.hSource ++ eth.hProto)

/-- The header at the start of `data`. -/
def read (data : List Byte) : EthHdr :=
  { hDest := data.take ETH_ALEN
    hSource := (data.drop ETH_ALEN).take ETH_ALEN
    hProto := (data.drop (2 * ETH_ALEN)).take 2 }

end EthHdr

/-- `ieee80211_get_8023_tunnel_proto` -/
def getTunnelProto (hdr : List Byte) : Option (List Byte) :=
  let hdrProto := (hdr.drop ETH_ALEN).take 2
  if ¬(hdr.take ETH_ALEN = rfc1042Header ∧ hdrProto ≠ ETH_P_AARP ∧ hdrProto ≠ ETH_P_IPX) ∧
      hdr.take ETH_ALEN ≠ bridgeTunnelHeader then
    none
  else
    some hdrProto

/-- `__ieee80211_get_mesh_hdrlen` -/
def getMeshHdrlen (flags : Byte) : BitVec 16 :=
  let ae := flags &&& 0x3
  if ae = 0x1 then 12 else if ae = 0x2 then 18 else 6

/-- `ieee80211_amsdu_subframe_length`: `mesh_control` says where the length has its high octet, and
    whether it counts the mesh header. -/
def amsduSubframeLength (field : List Byte) (meshFlags hdrType : Byte) : BitVec 16 :=
  let len : BitVec 16 := if hdrType ≥ 2 then field.getD 1 0 ++ field.getD 0 0
    else field.getD 0 0 ++ field.getD 1 0
  if hdrType ≠ 0 then len + getMeshHdrlen meshFlags else len

/-- `(4 - subframe_len) & 0x3` -/
def amsduPadding (subframeLen : Nat) : Nat := (4 - subframeLen % 4) % 4

/-- An skb with a length that is the same as an `int` and as an `unsigned int`. -/
structure AmsduSkb extends SkBuff where
  len_lt : toSkBuff.len < 2 ^ 31

/-- The loop of `ieee80211_is_valid_amsdu`, from `offset`.  The header it reads has four bytes: two of
    the length, the mesh flags and one of padding. -/
def isValidFrom (skb : SkBuff) (meshHdr : Byte) : Nat → Nat → Option Bool
  | 0, _ => none
  | fuel + 1, offset =>
    if offset < skb.len then
      let remaining := skb.len - offset
      if 4 > remaining then
        some false
      else
        match skb.copyBits (offset + 2 * ETH_ALEN) 4 with
        | none => some false
        | some hdr =>
          let len := amsduSubframeLength (hdr.take 2) (hdr.getD 2 0) meshHdr
          let subframeLen := ETH_HLEN + len.toNat
          let padding := amsduPadding subframeLen
          if subframeLen > remaining then some false
          else isValidFrom skb meshHdr fuel (offset + (subframeLen + padding))
    else
      some true

/-- `ieee80211_is_valid_amsdu` -/
def isValidAmsdu (skb : SkBuff) (meshHdr : Byte) : Option Bool :=
  isValidFrom skb meshHdr (skb.len + 1) 0

/-! ## Frames -/

/-- The second loop of `__ieee80211_amsdu_copy_frag`. -/
def amsduCopyRest : List (List Byte) → Nat → List (List Byte)
  | [], _ => []
  | frag :: frags, len =>
    if len > 0 then
      let curLen := min len frag.length
      frag.take curLen :: amsduCopyRest frags (len - curLen)
    else
      []

/-- `__ieee80211_amsdu_copy_frag`: fragments of the head and of the pages that hold `len` bytes from
    `offset` on. -/
def amsduCopyFrag : List (List Byte) → Nat → Nat → List (List Byte)
  | [], _, _ => []
  | frag :: frags, offset, len =>
    if offset ≥ frag.length then
      amsduCopyFrag frags (offset - frag.length) len
    else
      let curLen := min len (frag.length - offset)
      (frag.drop offset).take curLen :: amsduCopyRest frags (len - curLen)

/-- `__ieee80211_amsdu_copy`; `mem` is what `dev_alloc_skb` returns. -/
def amsduCopy (mem : Option (List Byte)) (skb : SkBuff) (offset len : Nat) (reuseFrag : Bool)
    (minLen : Nat) : Option SkBuff :=
  if skb.len - offset < len then
    none
  else
    let curLen := if reuseFrag then min len minLen else len
    mem.map fun tailroom =>
      let frame : SkBuff :=
        { head := (skb.bytes.drop offset).take curLen
          tailroom := tailroom
          frags := []
          fragList := []
          headFrag := false
          dev := 0
          priority := skb.priority }
      if len - curLen = 0 then frame
      else { frame with frags := amsduCopyFrag (skb.head :: skb.frags) (offset + curLen) (len - curLen) }

/-! ## The loop -/

/-- The parameters of `ieee80211_amsdu_to_8023s` that are not only room for headers. -/
structure AmsduArgs where
  /-- `iftype == NL80211_IFTYPE_MESH_POINT` -/
  isMesh : Bool
  checkDa : Option (List Byte)
  checkSa : Option (List Byte)
  meshControl : Byte
  /-- what is in `hdr.flags` on the stack when no mesh header is read -/
  stackFlags : Byte

/-- A subframe header, with what is computed from it. -/
structure Subframe where
  eth : EthHdr
  meshLen : Nat
  len : Nat
  padding : Nat
  last : Bool
  deriving DecidableEq, Repr

/-- The part of an iteration before `offset` changes; `none` for `goto purge`. -/
def amsduReadHdr (a : AmsduArgs) (skb : SkBuff) (offset : Nat) : Option Subframe :=
  let remaining := skb.len - offset
  let copyLen := if a.isMesh then ETH_HLEN + 1 else ETH_HLEN
  if copyLen > remaining then
    none
  else
    let hdr := (skb.bytes.drop offset).take copyLen
    let eth := EthHdr.read hdr
    let flags := if a.isMesh then hdr.getD ETH_HLEN 0 else a.stackFlags
    let meshLen := if a.isMesh then (getMeshHdrlen flags).toNat else 0
    let len := (amsduSubframeLength eth.hProto flags a.meshControl).toNat
    let subframeLen := ETH_HLEN + len
    let padding := amsduPadding subframeLen
    if subframeLen > remaining then none
    else if eth.hDest = rfc1042Header then none
    else
      some
        { eth := eth
          meshLen := meshLen
          len := len
          padding := padding
          last := decide (remaining ≤ subframeLen + padding) }

/-- `is_multicast_ether_addr`, for an address in memory. -/
def isMulticast (addr : List Byte) : Bool := (addr.getD 0 0).getLsbD 0

def amsduFiltered (a : AmsduArgs) (eth : EthHdr) : Bool :=
  (match a.checkDa with
    | none => false
    | some da => !isMulticast eth.hDest && decide (da ≠ eth.hDest)) ||
  (match a.checkSa with
    | none => false
    | some sa => decide (sa ≠ eth.hSource))

/-- What is done with a frame before it is queued. -/
def amsduFinish (a : AmsduArgs) (skb : SkBuff) (eth : EthHdr) (frame : SkBuff) : SkBuff :=
  let frame := { frame with dev := skb.dev, priority := skb.priority }
  if a.isMesh then
    frame.push eth.bytes
  else
    match getTunnelProto (frame.peek (ETH_ALEN + 2)) with
    | some proto => (frame.pull (ETH_ALEN + 2)).push { eth with hProto := proto }.bytes
    | none => frame.push eth.bytes

/-- `skb->head_frag && !skb_has_frag_list(skb)` -/
def reuseFrag (skb : SkBuff) : Bool := skb.headFrag && !skb.hasFragList

/-- The skb becomes the frame of the last subframe. -/
def reusesSkb (skb : SkBuff) : Bool := !skb.isNonlinear && !reuseFrag skb

/-- The loop of `ieee80211_amsdu_to_8023s`: the frames, and whether the last one is the skb itself.
    `alloc` gives the memory for the next frame after so many. -/
def amsduLoop (a : AmsduArgs) (alloc : Nat → Option (List Byte)) (skb : SkBuff) :
    Nat → Nat → List SkBuff → Option (List SkBuff × Bool)
  | 0, _, _ => none
  | fuel + 1, offset, list =>
    match amsduReadHdr a skb offset with
    | none => some ([], false)
    | some sf =>
      let data := offset + ETH_HLEN
      if amsduFiltered a sf.eth then
        if sf.last then some (list, false)
        else amsduLoop a alloc skb fuel (data + (sf.len + sf.padding)) list
      else if reusesSkb skb ∧ sf.last then
        some (list ++ [amsduFinish a skb sf.eth (skb.pull data)], true)
      else
        match amsduCopy (alloc list.length) skb data sf.len (reuseFrag skb) (32 + sf.meshLen) with
        | none => some ([], false)
        | some frame =>
          let list := list ++ [amsduFinish a skb sf.eth frame]
          if sf.last then some (list, false)
          else amsduLoop a alloc skb fuel (data + (sf.len + sf.padding)) list

/-- `ieee80211_amsdu_to_8023s` -/
def amsduTo8023s (a : AmsduArgs) (alloc : Nat → Option (List Byte)) (skb : SkBuff) :
    Option (List SkBuff × Bool) :=
  amsduLoop a alloc skb (skb.len + 1) 0 []

end Wireless.Amsdu
